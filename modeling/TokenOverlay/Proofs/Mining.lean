import TokenOverlay.Proofs.Following
import TokenOverlay.Proofs.Linked

namespace TokenOverlay

/-!
Mining and disconnecting inside the process.  The transactions of all blocks in
chain order, followed by the pool, are one row.  Mining and disconnecting only
move the place where the blocks end and the pool begins; a submission adds at
the end of the row, and nothing but dropping the pool takes anything out of it.
-/

open Block (Linked)

/-! ## A linked chain read in chain order -/

namespace Block.Linked

variable {first i : Nat} {chain : List Block} {block : Block}

/-- A block stands at the place its height says. -/
theorem height_of_reverse (linked : Linked first chain)
    (here : chain.reverse[i]? = some block) : block.height = first + i := by
  induction chain with
  | nil => cases here
  | cons newest older ih =>
      rw [List.reverse_cons] at here
      rcases Nat.lt_or_ge i older.length with inside | last
      · rw [List.getElem?_append_left (by rwa [List.length_reverse])] at here
        exact ih linked.2.2 here
      · rw [List.getElem?_append_right (by rwa [List.length_reverse])] at here
        rcases List.getElem?_eq_some_iff.mp here with ⟨bound, same⟩
        rw [List.length_reverse, List.length_singleton] at bound
        have place : i = older.length := by omega
        rw [List.getElem_singleton] at same
        rw [← same, linked.1, place]

/-- Every block but the first names the one in front of it. -/
theorem parent_of_reverse (linked : Linked first chain)
    (here : chain.reverse[i + 1]? = some block) :
    ∃ parent, chain.reverse[i]? = some parent ∧ block.parentHash = parent.hash := by
  induction chain with
  | nil => cases here
  | cons newest older ih =>
      rw [List.reverse_cons] at here ⊢
      rcases Nat.lt_or_ge (i + 1) older.length with inside | last
      · rw [List.getElem?_append_left (by rwa [List.length_reverse])] at here
        rw [List.getElem?_append_left (by rw [List.length_reverse]; omega)]
        exact ih linked.2.2 here
      · rw [List.getElem?_append_right (by rwa [List.length_reverse])] at here
        rcases List.getElem?_eq_some_iff.mp here with ⟨bound, same⟩
        rw [List.length_reverse, List.length_singleton] at bound
        rw [List.getElem_singleton] at same
        rw [List.getElem?_append_left (by rw [List.length_reverse]; omega)]
        cases older with
        | nil => rw [List.length_nil] at bound last; omega
        | cons parent rest =>
            have place : i = rest.length := by rw [List.length_cons] at bound last; omega
            refine ⟨parent, ?_, same ▸ linked.2.1 parent rfl⟩
            rw [List.reverse_cons, List.getElem?_append_right (by rw [List.length_reverse]; omega),
              List.length_reverse, place, Nat.sub_self]
            rfl

end Block.Linked

namespace LocalChain

/-! ## Calls -/

/-- One call that can change a chain. -/
inductive Operation where
  | submitRaw (sender payload : String) (reference : Option String)
  | submit (tx : Tx)
  | mine
  | mineAt (time : Int)
  | invalidateTip
  | reorgTo (height : Nat)
  | clearPool
deriving DecidableEq, Repr

/-- What a call leaves behind. -/
def perform (chain : LocalChain) : Operation → LocalChain
  | .submitRaw sender payload reference => (chain.submitRaw sender payload reference).2
  | .submit tx => chain.submit tx
  | .mine => chain.mine.2
  | .mineAt time => (chain.mineAt time).2
  | .invalidateTip => chain.invalidateTip.2
  | .reorgTo height => (chain.reorgTo height).2
  | .clearPool => chain.clearPool.2

/-- The chain that some calls on a new one lead to. -/
def run (genesisTime : Int) (operations : List Operation) : LocalChain :=
  operations.foldl perform (new genesisTime)

/-- The transactions of the blocks, in chain order. -/
def mined (chain : LocalChain) : List Tx := chain.blocks.flatMap Block.transactions

/-- The transactions of the blocks in chain order, and then those that wait. -/
def flow (chain : LocalChain) : List Tx := chain.mined ++ chain.pool

/-- The blocks follow each other from height zero on. -/
def Chained (chain : LocalChain) : Prop := Linked 0 chain.descending

/-! ## One call -/

section

variable {chain : LocalChain}

theorem blocks_eq_reverse (chain : LocalChain) : chain.blocks = chain.descending.reverse := by
  rw [descending, List.reverse_append, List.reverse_singleton]
  rfl

theorem descending_head? (chain : LocalChain) : chain.descending.head? = some chain.tip := by
  unfold descending tip
  cases chain.above with
  | nil => rfl
  | cons newest older => rfl

theorem Chained.tip_height (chained : chain.Chained) : chain.tip.height = chain.above.length := by
  unfold Chained descending at chained
  unfold tip
  cases above : chain.above with
  | nil => rw [above] at chained; exact chained.1
  | cons newest older =>
      rw [above] at chained
      have height : newest.height = 0 + (older ++ [chain.genesis]).length := chained.1
      rw [List.length_append, List.length_singleton, Nat.zero_add] at height
      exact height

theorem chained_new (time : Int) : (new time).Chained :=
  ⟨rfl, fun _ => nofun, trivial⟩

theorem Chained.mineAt (chained : chain.Chained) (time : Int) : (chain.mineAt time).2.Chained := by
  refine ⟨?_, ?_, chained⟩
  · change chain.tip.height + 1 = 0 + (chain.above ++ [chain.genesis]).length
    rw [chained.tip_height, List.length_append, List.length_singleton, Nat.zero_add]
  · intro parent newest
    change chain.descending.head? = some parent at newest
    rw [descending_head?] at newest
    exact congrArg Block.hash (Option.some.inj newest)

/-- The pool follows the blocks that are there, so making it one more block changes no place. -/
theorem flow_mineAt (chain : LocalChain) (time : Int) :
    (chain.mineAt time).2.flow = chain.flow := by
  simp only [flow, mined, blocks, LocalChain.mineAt, List.reverse_cons, List.flatMap_cons,
    List.flatMap_append, List.flatMap_nil, List.append_nil, List.append_assoc]

/-- What disconnecting the tip block does, by what there is to disconnect. -/
theorem invalidateTip_cases (chain : LocalChain) :
    (chain.above = [] ∧
        chain.invalidateTip =
          (.error (.unsupported "cannot invalidate the genesis block"), chain)) ∨
      ∃ block older, chain.above = block :: older ∧
        chain.invalidateTip =
          (.ok block, { chain with above := older, pool := block.transactions ++ chain.pool }) := by
  unfold LocalChain.invalidateTip
  cases above : chain.above with
  | nil => exact Or.inl ⟨rfl, rfl⟩
  | cons block older => exact Or.inr ⟨block, older, rfl, rfl⟩

theorem Chained.invalidateTip (chained : chain.Chained) : chain.invalidateTip.2.Chained := by
  rcases chain.invalidateTip_cases with ⟨_, refused⟩ | ⟨block, older, above, removed⟩
  · rw [refused]
    exact chained
  · rw [removed]
    unfold Chained descending at chained
    rw [above] at chained
    exact chained.2.2

/-- The transactions of a disconnected block come back in front of those that wait already. -/
theorem flow_invalidateTip (chain : LocalChain) : chain.invalidateTip.2.flow = chain.flow := by
  rcases chain.invalidateTip_cases with ⟨_, refused⟩ | ⟨block, older, above, removed⟩
  · rw [refused]
  · rw [removed]
    simp only [flow, mined, blocks, above, List.reverse_cons, List.flatMap_cons,
      List.flatMap_append, List.flatMap_nil, List.append_nil, List.append_assoc]

/-- Enough fuel disconnects exactly the blocks above a height. -/
theorem Chained.reorgWithin (chained : chain.Chained) {height fuel : Nat}
    (enough : chain.above.length ≤ height + fuel) :
    ∃ removed after, chain.reorgWithin height fuel = (.ok removed, after) ∧ after.Chained ∧
      after.flow = chain.flow ∧ removed ++ after.above = chain.above ∧
      after.tip.height = min chain.tip.height height := by
  induction fuel generalizing chain with
  | zero =>
      refine ⟨[], chain, rfl, chained, rfl, rfl, ?_⟩
      rw [chained.tip_height]
      omega
  | succ fuel ih =>
      unfold LocalChain.reorgWithin
      by_cases low : chain.tip.height ≤ height
      · rw [if_pos low]
        exact ⟨[], chain, rfl, chained, rfl, rfl, (Nat.min_eq_left low).symm⟩
      · rw [if_neg low]
        have tip := chained.tip_height
        have next := chained.invalidateTip
        have flow := chain.flow_invalidateTip
        rcases chain.invalidateTip_cases with ⟨above, _⟩ | ⟨block, older, above, same⟩
        · rw [above, List.length_nil] at tip
          omega
        · rw [same] at next flow ⊢
          rw [above, List.length_cons] at enough tip
          have lower := next.tip_height
          rcases ih next (by dsimp only; omega) with
            ⟨removed, after, answered, still, kept, split, reached⟩
          dsimp only at answered split lower
          simp only [answered]
          refine ⟨block :: removed, after, rfl, still, kept.trans flow, ?_, ?_⟩
          · rw [List.cons_append, split, above]
          · rw [reached, lower, tip]
            omega

/-- Disconnecting down to a height succeeds. -/
theorem Chained.reorgTo (chained : chain.Chained) (height : Nat) :
    ∃ removed after, chain.reorgTo height = (.ok removed, after) ∧ after.Chained ∧
      after.flow = chain.flow ∧ removed ++ after.above = chain.above ∧
      after.tip.height = min chain.tip.height height :=
  chained.reorgWithin (by omega)

theorem flow_submit (chain : LocalChain) (tx : Tx) :
    (chain.submit tx).flow = chain.flow ++ [tx] := (List.append_assoc _ _ _).symm

/-- A submission in hexadecimal is refused and changes nothing, or waits at the end. -/
theorem submitRaw_cases (chain : LocalChain) (sender payload : String)
    (reference : Option String) :
    (∃ reason, chain.submitRaw sender payload reference = (.error reason, chain)) ∨
      ∃ txid bytes, Hex.decode payload = .ok bytes ∧
        (chain.submitRaw sender payload reference).1 = .ok txid ∧
        (chain.submitRaw sender payload reference).2.above = chain.above ∧
        (chain.submitRaw sender payload reference).2.genesis = chain.genesis ∧
        (chain.submitRaw sender payload reference).2.flow =
          chain.flow ++ [⟨txid, sender, reference, bytes⟩] := by
  unfold submitRaw
  split
  · exact Or.inl ⟨_, rfl⟩
  · cases Hex.decode payload with
    | error reason => exact Or.inl ⟨_, rfl⟩
    | ok bytes => exact Or.inr ⟨_, bytes, rfl, rfl, rfl, rfl, (List.append_assoc _ _ _).symm⟩

theorem Chained.perform (chained : chain.Chained) (operation : Operation) :
    (chain.perform operation).Chained := by
  cases operation with
  | submitRaw sender payload reference =>
      change (chain.submitRaw sender payload reference).2.Chained
      rcases chain.submitRaw_cases sender payload reference with
        ⟨reason, refused⟩ | ⟨txid, bytes, _, _, above, genesis, _⟩
      · rw [refused]
        exact chained
      · unfold Chained descending
        rw [above, genesis]
        exact chained
  | submit tx => exact chained
  | mine => exact chained.mineAt _
  | mineAt time => exact chained.mineAt time
  | invalidateTip => exact chained.invalidateTip
  | reorgTo height =>
      rcases chained.reorgTo height with ⟨removed, after, same, still, _⟩
      change (chain.reorgTo height).2.Chained
      rw [same]
      exact still
  | clearPool => exact chained

/-- What stands in the row keeps its place, unless the pool is dropped. -/
theorem Chained.flow_perform (chained : chain.Chained) {operation : Operation}
    (keeps : operation ≠ .clearPool) : chain.flow <+: (chain.perform operation).flow := by
  cases operation with
  | submitRaw sender payload reference =>
      change chain.flow <+: (chain.submitRaw sender payload reference).2.flow
      rcases chain.submitRaw_cases sender payload reference with
        ⟨reason, refused⟩ | ⟨txid, bytes, _, _, _, _, queued⟩
      · exact refused.symm ▸ List.prefix_rfl
      · rw [queued]
        exact List.prefix_append _ _
  | submit tx =>
      change chain.flow <+: (chain.submit tx).flow
      rw [flow_submit]
      exact List.prefix_append _ _
  | mine => exact (flow_mineAt chain _).symm ▸ List.prefix_rfl
  | mineAt time => exact (flow_mineAt chain time).symm ▸ List.prefix_rfl
  | invalidateTip => exact (flow_invalidateTip chain).symm ▸ List.prefix_rfl
  | reorgTo height =>
      rcases chained.reorgTo height with ⟨removed, after, same, _, kept, _⟩
      change chain.flow <+: (chain.reorgTo height).2.flow
      rw [same]
      exact kept.symm ▸ List.prefix_rfl
  | clearPool => exact absurd rfl keeps

end

/-! ## Every chain that calls lead to -/

theorem chained_run (genesisTime : Int) (operations : List Operation) :
    (run genesisTime operations).Chained := by
  induction operations using List.reverseRecOn with
  | nil => exact chained_new genesisTime
  | append_singleton earlier operation ih =>
      rw [run, List.foldl_append]
      exact ih.perform operation

/-- Over any calls that do not drop the pool, the row of all transactions only grows at its end. -/
theorem flow_run (genesisTime : Int) (earlier later : List Operation)
    (keeps : Operation.clearPool ∉ later) :
    (run genesisTime earlier).flow <+: (run genesisTime (earlier ++ later)).flow := by
  induction later using List.reverseRecOn with
  | nil => exact (List.append_nil earlier).symm ▸ List.prefix_rfl
  | append_singleton before operation ih =>
      have chained := chained_run genesisTime (earlier ++ before)
      rw [List.mem_append, List.mem_singleton, not_or] at keeps
      refine (ih keeps.1).trans ?_
      have last : run genesisTime (earlier ++ (before ++ [operation])) =
          (run genesisTime (earlier ++ before)).perform operation := by
        rw [← List.append_assoc, run, List.foldl_append]
        rfl
      rw [last]
      exact chained.flow_perform (Ne.symm keeps.2)

/-- A chain that calls lead to is a source that answers out of that chain. -/
theorem run_serves (genesisTime : Int) (operations : List Operation) :
    source.Serves (run genesisTime operations).descending
      fun state => state = run genesisTime operations := by
  apply source_serves
  intro block member
  unfold block?
  rw [blocks_eq_reverse]
  rcases List.getElem?_of_mem (List.mem_reverse.mpr member) with ⟨place, here⟩
  have height := Linked.height_of_reverse (chained_run genesisTime operations) here
  rw [height, Nat.zero_add, here]

/-- A chain inside the process loses, doubles and reorders nothing.  Blocks are filed by height and
name their parents; mining and disconnecting leave the row of all transactions as it is; a
submission that is taken stands at its end; dropping the pool leaves the mined ones; and
disconnecting down to a height always succeeds, with the tip no higher than that. -/
theorem run_keeps_flow (genesisTime : Int) (operations : List Operation) :
    let chain := run genesisTime operations
    ((∀ (i : Nat) block, chain.blocks[i]? = some block → block.height = i) ∧
      ∀ (i : Nat) block, chain.blocks[i + 1]? = some block →
        ∃ parent, chain.blocks[i]? = some parent ∧ block.parentHash = parent.hash) ∧
    (chain.mine.2.flow = chain.flow ∧
      (∀ time, (chain.mineAt time).2.flow = chain.flow) ∧
      chain.invalidateTip.2.flow = chain.flow ∧
      ∀ height, (chain.reorgTo height).2.flow = chain.flow) ∧
    ((∀ tx, (chain.submit tx).flow = chain.flow ++ [tx]) ∧
      ∀ sender payload reference,
        (∃ reason, chain.submitRaw sender payload reference = (.error reason, chain)) ∨
          ∃ txid bytes, Hex.decode payload = .ok bytes ∧
            (chain.submitRaw sender payload reference).1 = .ok txid ∧
            (chain.submitRaw sender payload reference).2.flow =
              chain.flow ++ [⟨txid, sender, reference, bytes⟩]) ∧
    (chain.clearPool.1 = chain.pool ∧ chain.clearPool.2.flow = chain.mined ∧
      chain.clearPool.2.mined = chain.mined) ∧
    ∀ height, ∃ removed, (chain.reorgTo height).1 = .ok removed ∧
      (chain.reorgTo height).2.tip.height = min chain.tip.height height := by
  intro chain
  have chained : chain.Chained := chained_run genesisTime operations
  refine ⟨⟨?_, ?_⟩, ⟨flow_mineAt chain _, flow_mineAt chain, flow_invalidateTip chain, ?_⟩,
    ⟨flow_submit chain, ?_⟩, ⟨rfl, List.append_nil _, rfl⟩, ?_⟩
  · intro i block here
    rw [blocks_eq_reverse] at here
    have height := Linked.height_of_reverse chained here
    rwa [Nat.zero_add] at height
  · intro i block here
    rw [blocks_eq_reverse] at here ⊢
    exact Linked.parent_of_reverse chained here
  · intro height
    rcases chained.reorgTo height with ⟨removed, after, same, _, kept, _⟩
    rw [same]
    exact kept
  · intro sender payload reference
    rcases chain.submitRaw_cases sender payload reference with
      refused | ⟨txid, bytes, read, answer, _, _, queued⟩
    · exact Or.inl refused
    · exact Or.inr ⟨txid, bytes, read, answer, queued⟩
  · intro height
    rcases chained.reorgTo height with ⟨removed, after, same, _, _, _, reached⟩
    rw [same]
    exact ⟨removed, rfl, reached⟩

end LocalChain
end TokenOverlay
