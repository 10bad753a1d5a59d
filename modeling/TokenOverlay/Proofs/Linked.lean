import TokenOverlay.Proofs.Session

namespace TokenOverlay
namespace Block

/-!
Chains cut by height.  A linked chain has one block at each of its heights, so
cutting it at a height splits the list: the blocks above come first, and the
others follow.
-/

/-- The blocks of a chain from a height on. -/
def since (height : Nat) (chain : List Block) : List Block :=
  chain.filter fun block => height ≤ block.height

namespace Linked

variable {first height : Nat} {chain newer older : List Block} {block : Block}

theorem le_height (linked : Linked first chain) (member : block ∈ chain) :
    first ≤ block.height := by
  induction chain with
  | nil => cases member
  | cons newest older ih =>
      rcases List.mem_cons.mp member with rfl | earlier
      · rw [linked.1]
        exact Nat.le_add_right first older.length
      · exact ih linked.2.2 earlier

theorem exists_height (linked : Linked first chain) (low : first ≤ height)
    (high : height < first + chain.length) : ∃ block ∈ chain, block.height = height := by
  induction chain with
  | nil => exact absurd high (Nat.not_lt.mpr low)
  | cons newest older ih =>
      by_cases here : newest.height = height
      · exact ⟨newest, List.mem_cons_self, here⟩
      · rw [linked.1] at here
        rw [List.length_cons] at high
        rcases ih linked.2.2 (by omega) with ⟨block, member, same⟩
        exact ⟨block, List.mem_cons_of_mem newest member, same⟩

/-- Above the first height, a block names the block below it as its parent. -/
theorem exists_parent (linked : Linked first chain) (member : block ∈ chain)
    (above : first < block.height) :
    ∃ below ∈ chain, below.height + 1 = block.height ∧ block.parentHash = below.hash := by
  induction chain with
  | nil => cases member
  | cons newest older ih =>
      rcases List.mem_cons.mp member with rfl | earlier
      · cases older with
        | nil =>
            have height := linked.1
            rw [List.length_nil] at height
            omega
        | cons below rest =>
            have height := linked.1
            have lower := linked.2.2.1
            rw [List.length_cons] at height
            refine ⟨below, List.mem_cons_of_mem _ List.mem_cons_self, ?_, linked.2.1 below rfl⟩
            omega
      · rcases ih linked.2.2 earlier with ⟨below, listed, parent⟩
        exact ⟨below, List.mem_cons_of_mem newest listed, parent⟩

/-- No other block has the height of the newest one. -/
theorem eq_newest (linked : Linked first (block :: older)) {other : Block}
    (member : other ∈ block :: older) (same : other.height = block.height) : other = block := by
  rcases List.mem_cons.mp member with rfl | earlier
  · rfl
  · have below := linked.2.2.height_lt earlier
    rw [same, linked.1] at below
    exact absurd below (Nat.lt_irrefl _)

/-- A chain has no two blocks of one height. -/
theorem eq_of_height (linked : Linked first chain) (member : block ∈ chain) {other : Block}
    (listed : other ∈ chain) (same : other.height = block.height) : other = block := by
  induction chain with
  | nil => cases member
  | cons newest older ih =>
      rcases List.mem_cons.mp member with rfl | earlier
      · exact linked.eq_newest listed same
      · rcases List.mem_cons.mp listed with rfl | otherEarlier
        · exact (linked.eq_newest (List.mem_cons_of_mem _ earlier) same.symm).symm
        · exact ih linked.2.2 earlier otherEarlier

theorem of_append (linked : Linked first (newer ++ older)) : Linked first older := by
  induction newer with
  | nil => exact linked
  | cons block newer ih => exact ih linked.2.2

/-- Below one block two chains are the same, if among their blocks a hash names its block. -/
theorem eq_of_named {others : List Block} (linked : Linked first (block :: older))
    (beside : Linked first (block :: others))
    (named : ∀ own ∈ older, ∀ other ∈ others, own.hash = other.hash → own = other) :
    older = others := by
  induction older generalizing block others with
  | nil =>
      have height := linked.1.symm.trans beside.1
      exact (List.eq_nil_of_length_eq_zero (Nat.add_left_cancel height).symm).symm
  | cons parent rest ih =>
      have height := linked.1.symm.trans beside.1
      cases others with
      | nil => cases Nat.add_left_cancel height
      | cons other remaining =>
          have hash := (linked.2.1 parent rfl).symm.trans (beside.2.1 other rfl)
          have same := named parent List.mem_cons_self other List.mem_cons_self hash
          subst same
          refine congrArg (parent :: ·) (ih linked.2.2 beside.2.2 ?_)
          intro own member other listed
          exact named own (List.mem_cons_of_mem _ member) other (List.mem_cons_of_mem _ listed)

/-! ## Cutting -/

theorem since_eq_take (linked : Linked first chain) (height : Nat) :
    since height chain = chain.take (first + chain.length - height) := by
  unfold Block.since
  induction chain with
  | nil => exact List.take_nil.symm
  | cons block older ih =>
      have here := linked.1
      rw [List.length_cons]
      by_cases inside : height ≤ block.height
      · have count : first + (older.length + 1) - height =
            first + older.length - height + 1 := by omega
        rw [List.filter_cons, if_pos (decide_eq_true inside), ih linked.2.2, count,
          List.take_succ_cons]
      · have none : first + older.length - height = 0 := by omega
        have still : first + (older.length + 1) - height = 0 := by omega
        rw [List.filter_cons, if_neg (mt of_decide_eq_true inside), ih linked.2.2, none, still,
          List.take_zero, List.take_zero]

theorem filter_eq_drop (linked : Linked first chain) (height : Nat) :
    (chain.filter fun block => block.height ≤ height) =
      chain.drop (first + chain.length - (height + 1)) := by
  induction chain with
  | nil => exact List.drop_nil.symm
  | cons block older ih =>
      have here := linked.1
      by_cases below : block.height ≤ height
      · have none : first + (block :: older).length - (height + 1) = 0 := by
          rw [List.length_cons]
          omega
        rw [linked.filter_eq_self (by rw [List.length_cons]; omega), none, List.drop_zero]
      · have count : first + (block :: older).length - (height + 1) =
            first + older.length - (height + 1) + 1 := by
          rw [List.length_cons]
          omega
        rw [List.filter_cons, if_neg (mt of_decide_eq_true below), ih linked.2.2, count,
          List.drop_succ_cons]

/-- Cut at the height of one of its blocks, a chain begins with that block. -/
theorem filter_append (linked : Linked first (newer ++ block :: older)) :
    ((newer ++ block :: older).filter fun other => other.height ≤ block.height) =
      block :: older := by
  have count : first + (newer ++ block :: older).length - (block.height + 1) = newer.length := by
    rw [linked.of_append.1, List.length_append, List.length_cons]
    omega
  rw [linked.filter_eq_drop, count, List.drop_left]

/-- The blocks above a height come first, and those up to it follow. -/
theorem since_append_filter (linked : Linked first chain) (height : Nat) :
    (since (height + 1) chain ++ chain.filter fun block => block.height ≤ height) = chain := by
  rw [linked.since_eq_take, linked.filter_eq_drop, List.take_append_drop]

theorem length_since (linked : Linked first chain) (late : first ≤ height) :
    (since height chain).length = first + chain.length - height := by
  rw [linked.since_eq_take, List.length_take]
  omega

theorem length_filter (linked : Linked first chain) (height : Nat) :
    (chain.filter fun block => block.height ≤ height).length =
      chain.length - (first + chain.length - (height + 1)) := by
  rw [linked.filter_eq_drop, List.length_drop]

/-- The newest blocks of a chain are linked from the height of the oldest of them on. -/
theorem take (linked : Linked first chain) (count : Nat) :
    Linked (first + (chain.length - count)) (chain.take count) := by
  induction chain generalizing count with
  | nil => rw [List.take_nil]; exact trivial
  | cons block older ih =>
      cases count with
      | zero => exact trivial
      | succ count =>
          rw [List.take_succ_cons, List.length_cons, Nat.add_sub_add_right]
          refine ⟨?_, ?_, ih linked.2.2 count⟩
          · rw [linked.1, List.length_take]
            omega
          · intro parent newest
            refine linked.2.1 parent ?_
            cases older with
            | nil => rw [List.take_nil] at newest; exact newest
            | cons next rest =>
                cases count with
                | zero => cases newest
                | succ count => exact newest

theorem linked_since (linked : Linked first chain) (late : first ≤ height) :
    Linked height (since height chain) := by
  rw [linked.since_eq_take]
  by_cases inside : height ≤ first + chain.length
  · have start : first + (chain.length - (first + chain.length - height)) = height := by omega
    have part := linked.take (first + chain.length - height)
    rwa [start] at part
  · have none : first + chain.length - height = 0 := by omega
    rw [none]
    exact trivial

end Linked
end Block
end TokenOverlay
