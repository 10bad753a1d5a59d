import TokenOverlay.Proofs.Linked
import TokenOverlay.Proofs.Reachable

namespace TokenOverlay

/-!
Which blocks an engine can take back.  At all times the undo entries that are
kept are those of the blocks from some height, the floor, up to the tip.  An
accepted block raises the floor to the edge of its window, and a rollback
leaves it where it is.  What an engine knows about a block that it can take
back is the hash of the block at that height of its chain.  Heights stay numbers
of 32 bits as long as no block has the last of them.
-/

namespace Engine

/-- The engine has kept the undo entries of the blocks of its chain from a floor on. -/
structure Retains (e : Engine) (chain : List Block) (floor : Nat) : Prop where
  floor_le : floor ≤ e.nextHeight
  kept : ∀ height, (e.undoChain.get? height).isSome ↔ floor ≤ height ∧ height < e.nextHeight
  hash : ∀ block ∈ chain, ∀ undo, e.undoChain.get? block.height = some undo →
    undo.hash = block.hash

/-! ## Going back -/

/-- Taking back the blocks above a height leaves the entries up to it alone. -/
theorem get?_undoChain_disconnectAbove (e : Engine) {height h : Nat} (count : Nat)
    (below : h ≤ height) :
    (e.disconnectAbove height count).1.undoChain.get? h = e.undoChain.get? h := by
  induction count generalizing e with
  | zero => rfl
  | succ count ih =>
      cases found : e.undoChain.get? (height + count + 1) with
      | none => simp only [disconnectAbove, found]
      | some undo =>
          simp only [disconnectAbove, found]
          refine (ih (e.disconnect (height + count + 1) undo)).trans ?_
          exact SortedMap.get?_erase_of_ne e.undoChain (by omega)

/-- The entries up to the height of a rollback are left alone. -/
theorem get?_undoChain_rollbackTo (e : Engine) {height h : Nat} (low : h ≤ height) :
    (e.rollbackTo height).2.undoChain.get? h = e.undoChain.get? h := by
  rcases e.rollbackTo_cases height with
    ⟨outcome, _⟩ | ⟨tip, _, _, ⟨_, _, _, _, outcome⟩ | ⟨_, outcome⟩⟩
  · rw [outcome]
  · rw [outcome]
  · rw [outcome]
    exact e.get?_undoChain_disconnectAbove (tip.height - height) low

/-- Once the blocks above a height are gone, the next one comes right above it. -/
theorem Follows.nextHeight_filter {rules : Rules} {invariant : Invariant rules} {e after : Engine}
    {chain : List Block} {height : Nat} (follows : Follows invariant e chain)
    (left : Follows invariant after (chain.filter fun block => block.height ≤ height))
    (low : rules.params.genesisBlock ≤ height + 1) (high : height < e.nextHeight) :
    after.nextHeight = height + 1 := by
  rw [follows.nextHeight_eq] at high
  rw [left.nextHeight_eq, follows.linked.length_filter]
  omega

namespace Retains

variable {rules : Rules} {invariant : Invariant rules} {e after : Engine} {chain : List Block}
  {floor height : Nat}

theorem fresh (rules : Rules) :
    Retains (.fresh rules) [] rules.params.genesisBlock where
  floor_le := Nat.le_refl _
  kept := by
    intro height
    refine ⟨fun found => ?_, fun between => ?_⟩
    · cases found
    · exact absurd between.2 (Nat.not_lt.mpr between.1)
  hash := by
    intro block member
    cases member

/-- The floor follows the tip at the distance of the depth. -/
theorem extend (retains : Retains e chain floor) (follows : Follows invariant e chain)
    {block : Block} (fits : e.misfit? block = none) :
    Retains (e.extend block).1 (block :: chain) (max floor (block.height + 1 - depth e.rules)) := by
  have linked := follows.linked_of_fits fits
  have here : block.height = e.nextHeight := linked.1.trans follows.nextHeight_eq.symm
  have next : (e.extend block).1.nextHeight = e.nextHeight + 1 := congrArg (· + 1) here
  have window : 1 ≤ depth e.rules := Nat.le_max_left 1 _
  have low := retains.floor_le
  constructor
  · rw [next]
    omega
  · intro h
    have kept := retains.kept h
    rw [get?_undoChain_extend, next]
    by_cases inside : block.height < h + depth e.rules
    · rw [if_pos inside]
      by_cases newest : h = block.height
      · rw [if_pos newest, Option.isSome_some, eq_self, true_iff]
        omega
      · rw [if_neg newest, kept]
        omega
    · rw [if_neg inside, Option.isSome_none, Bool.false_eq_true, false_iff]
      omega
  · intro other member undo found
    rw [get?_undoChain_extend] at found
    split at found
    · split at found
      · next same =>
          cases found
          rw [linked.eq_newest member same]
      · next different =>
          rcases List.mem_cons.mp member with rfl | older
          · exact absurd rfl different
          · exact retains.hash other older undo found
    · cases found

/-- A rollback that is accepted leaves the floor where it is. -/
theorem rollbackTo (retains : Retains e chain floor) (follows : Follows invariant e chain)
    {txids : List String} (run : e.rollbackTo height = (.ok txids, after))
    (left : Follows invariant after (chain.filter fun block => block.height ≤ height)) :
    Retains after (chain.filter fun block => block.height ≤ height) floor := by
  rcases e.rollbackTo_cases height with
    ⟨outcome, low⟩ | ⟨tip, atTip, above, ⟨_, _, _, _, outcome⟩ | ⟨complete, outcome⟩⟩
  · rw [outcome] at run
    cases run
    rw [follows.filter_eq_self low]
    exact retains
  · rw [outcome] at run
    cases run
  · rw [outcome] at run
    cases congrArg Prod.snd run
    have same := fun h (below : h ≤ height) =>
      get?_undoChain_disconnectAbove e (tip.height - height) below
    have top := nextHeight_of_some atTip
    have present := complete (height + 1) (Nat.lt_succ_self height) above
    have floorLow := ((retains.kept (height + 1)).mp present).1
    have next : (e.disconnectAbove height (tip.height - height)).1.nextHeight = height + 1 := by
      rcases Option.isSome_iff_exists.mp present with ⟨undo, found⟩
      exact follows.nextHeight_filter left (follows.within (height + 1) undo found).1 (by omega)
    constructor
    · rw [next]
      exact floorLow
    · intro h
      rw [next]
      by_cases below : h ≤ height
      · rw [same h below, retains.kept h]
        omega
      · -- Nothing is kept above the height: entries stay within the chain that is followed.
        refine ⟨fun found => ?_, fun between => ?_⟩
        · rcases Option.isSome_iff_exists.mp found with ⟨undo, known⟩
          have bounds := left.within h undo known
          rw [← left.nextHeight_eq, next] at bounds
          omega
        · omega
    · intro block member undo found
      rcases List.mem_filter.mp member with ⟨old, low⟩
      rw [same block.height (of_decide_eq_true low)] at found
      exact retains.hash block old undo found

/-- An engine knows a block of its chain by hash if it is the newest or can be taken back. -/
theorem blockHashAt?_eq (retains : Retains e chain floor) (follows : Follows invariant e chain)
    {block : Block} (member : block ∈ chain)
    (known : floor ≤ block.height ∨ block.height + 1 = e.nextHeight) :
    e.blockHashAt? block.height = some block.hash := by
  cases chain with
  | nil => cases member
  | cons newest older =>
      have tip : e.tip = some ⟨newest.height, newest.hash⟩ := follows.tip
      have next : e.nextHeight = newest.height + 1 := nextHeight_of_some tip
      simp only [blockHashAt?, tip]
      by_cases top : newest.height = block.height
      · rw [if_pos top, follows.linked.eq_newest member top.symm]
      · have low : floor ≤ block.height := by
          rcases known with low | high
          · exact low
          · omega
        have below := follows.linked.height_lt member
        rw [← follows.nextHeight_eq] at below
        rcases Option.isSome_iff_exists.mp ((retains.kept block.height).mpr ⟨low, below⟩) with
          ⟨undo, found⟩
        rw [if_neg top, found, Option.map_some, retains.hash block member undo found]

end Retains
end Engine

namespace Session

/-- The blocks that a call adds to the chain. -/
def taken (session : Session) : Call → List Block
  | .apply block =>
      match session.engine.applyBlock block with
      | .ok _ => [block]
      | .error _ => []
  | .rollback _ => []

def appliedFrom (session : Session) : List Call → List Block
  | [] => []
  | next :: rest => session.taken next ++ (session.call next).appliedFrom rest

/-- All blocks that were ever applied, oldest first; some may have been taken back since. -/
def applied (rules : Rules) (calls : List Call) : List Block := (fresh rules).appliedFrom calls

/-- The greatest height that was ever applied, zero before the first block. -/
def highest (rules : Rules) (calls : List Call) : Nat :=
  (applied rules calls).foldl (fun greatest block => max greatest block.height) 0

/-- Where the window of blocks that are kept undoable starts. -/
def windowStart (rules : Rules) (calls : List Call) : Nat :=
  max rules.params.genesisBlock (highest rules calls + 1 - Engine.depth rules)

theorem applied_concat (rules : Rules) (calls : List Call) (last : Call) :
    applied rules (calls ++ [last]) = applied rules calls ++ (run rules calls).taken last := by
  unfold applied run
  generalize fresh rules = session
  induction calls generalizing session with
  | nil => exact List.append_nil _
  | cons next rest ih =>
      rw [List.cons_append, appliedFrom, appliedFrom, ih, List.append_assoc, List.foldl_cons]

theorem highest_concat (rules : Rules) (calls : List Call) (last : Call) :
    highest rules (calls ++ [last]) = ((run rules calls).taken last).foldl
      (fun greatest block => max greatest block.height) (highest rules calls) := by
  rw [highest, applied_concat, List.foldl_append]
  rfl

/-! ### Heights -/

theorem active_subset_applied (rules : Rules) (calls : List Call) :
    (run rules calls).active ⊆ applied rules calls := by
  induction calls using List.reverseRecOn with
  | nil => exact List.nil_subset _
  | append_singleton calls last within =>
      rw [run_concat, applied_concat]
      cases last with
      | apply block =>
          simp only [call, taken]
          cases (run rules calls).engine.applyBlock block with
          | error reason => exact List.subset_append_of_subset_left _ within
          | ok accepted =>
              exact List.cons_subset.mpr ⟨List.mem_append_right _ List.mem_cons_self,
                List.subset_append_of_subset_left _ within⟩
      | rollback height =>
          simp only [call, taken, List.append_nil]
          rcases (run rules calls).engine.rollbackTo height with ⟨reason | txids, after⟩
          · exact within
          · exact List.Subset.trans List.filter_sublist.subset within

/-- Every engine in use counts on from its tip as numbers of 32 bits do, and never beyond them, as
long as no block was applied at the last of those heights. -/
theorem run_nextHeight_lt (rules : Rules) (calls : List Call)
    (start : rules.params.genesisBlock < UInt32.size)
    (below : ∀ block ∈ applied rules calls, block.height + 1 < UInt32.size) :
    (run rules calls).engine.nextHeight < UInt32.size ∧
      ∀ tip, (run rules calls).engine.tip = some tip →
        (UInt32.ofNat tip.height + 1).toNat = (run rules calls).engine.nextHeight := by
  have follows := run_follows_books rules calls
  have within := active_subset_applied rules calls
  have newest := follows.tip
  cases chain : (run rules calls).active with
  | nil =>
      have next := follows.nextHeight_eq
      rw [chain, List.length_nil, Nat.add_zero] at next
      rw [chain] at newest
      rw [next, newest]
      exact ⟨start, fun _ impossible => nomatch impossible⟩
  | cons block older =>
      have room := below block (within (chain ▸ List.mem_cons_self))
      rw [chain] at newest
      have next : (run rules calls).engine.nextHeight = block.height + 1 :=
        Engine.nextHeight_of_some newest
      rw [next, newest]
      refine ⟨room, ?_⟩
      rintro tip ⟨⟩
      have fits := UInt32.toNat_ofNat_of_lt' (Nat.lt_of_succ_lt room)
      rw [UInt32.toNat_add, fits]
      exact Nat.mod_eq_of_lt room

/-! ### The window -/

/-- The floor of a run is the start of its window. -/
theorem run_retains_window (rules : Rules) (calls : List Call) :
    Engine.Retains (run rules calls).engine (run rules calls).active
      (windowStart rules calls) := by
  induction calls using List.reverseRecOn with
  | nil =>
      have window : 1 ≤ Engine.depth rules := Nat.le_max_left 1 _
      have start : windowStart rules [] = rules.params.genesisBlock := by
        change max _ (0 + 1 - Engine.depth rules) = _
        omega
      rw [start]
      exact Engine.Retains.fresh rules
  | append_singleton calls last retains =>
      have follows := run_follows_books rules calls
      rw [run_concat, windowStart, highest_concat]
      unfold call taken
      cases last with
      | apply block =>
          cases fits : (run rules calls).engine.misfit? block with
          | some reason =>
              simp only [Engine.applyBlock, fits, List.foldl_nil]
              exact retains
          | none =>
              have extended := retains.extend follows fits
              have edge : max (windowStart rules calls) (block.height + 1 - Engine.depth rules) =
                  max rules.params.genesisBlock
                    (max (highest rules calls) block.height + 1 - Engine.depth rules) := by
                unfold windowStart
                omega
              rw [follows.sameRules, edge] at extended
              simpa only [Engine.applyBlock, fits, List.foldl_cons, List.foldl_nil] using extended
      | rollback height =>
          rcases follows.rollbackTo height with
            ⟨txids, after, outcome, below⟩ | ⟨_, _, _, _, outcome⟩
          · simp only [outcome, List.foldl_nil]
            exact retains.rollbackTo follows outcome below
          · simp only [outcome, List.foldl_nil]
            exact retains

/-- Along every run there is a floor. -/
theorem run_retains (rules : Rules) (calls : List Call) :
    ∃ floor, Engine.Retains (run rules calls).engine (run rules calls).active floor :=
  ⟨_, run_retains_window rules calls⟩

end Session
end TokenOverlay
