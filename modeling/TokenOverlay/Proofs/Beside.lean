import TokenOverlay.Proofs.Convergence
import TokenOverlay.Proofs.Naming

namespace TokenOverlay
namespace LocalChain

/-!
A follower beside a chain inside the process.  The chain answers out of its own
blocks and stays as it is while a round asks it, so it is a steady source.  What
the follower has seen of it at an earlier time parts for good from what it is
now, unless two blocks that were ever mined have one name; and the transactions
that lost their block in between are still in the row.
-/

open Block (Linked confirmed since HighestCommon PartForGood)
open Session (ConfirmedOnce)

/-- No two of the blocks that were ever mined have one name. -/
def NamedApart (genesisTime : Int) (operations : List Operation) : Prop :=
  ((everMined genesisTime operations).map Block.hash).Nodup

instance (genesisTime : Int) (operations : List Operation) :
    Decidable (NamedApart genesisTime operations) := inferInstanceAs (Decidable (List.Nodup _))

/-- A block that takes the place of one mined alike has a name of its own. -/
example : NamedApart 0 [.mine, .invalidateTip, .mine] := by decide +kernel

/-! ## Two moments of one chain -/

section

variable {genesisTime : Int} {earlier later : List Operation}

/-- What was linked out of an earlier chain parts for good from the chain of now. -/
theorem NamedApart.partForGood (apart : NamedApart genesisTime (earlier ++ later)) {first : Nat}
    {mine : List Block} (linked : Linked first mine)
    (seen : mine ⊆ (run genesisTime earlier).descending) :
    PartForGood first mine (run genesisTime (earlier ++ later)).descending := by
  have now : Linked 0 (run genesisTime (earlier ++ later)).descending := chained_run _ _
  refine PartForGood.of_named linked now (Nat.zero_le first) ?_
  intro own member other listed same
  have before : own ∈ everMined genesisTime (earlier ++ later) := by
    rw [everMined_append]
    exact List.mem_append_left _ (mem_descending_run (seen member))
  exact List.inj_on_of_nodup_map apart before (mem_descending_run listed) same

theorem mem_confirmed_descending {chain : LocalChain} {txid : String} :
    txid ∈ confirmed chain.descending ↔ ∃ tx ∈ chain.mined, tx.txid = txid := by
  simp only [confirmed, mined, blocks_eq_reverse, List.mem_flatMap, List.mem_map, List.mem_reverse]
  constructor
  · rintro ⟨block, member, tx, inside, same⟩
    exact ⟨tx, ⟨block, member, inside⟩, same⟩
  · rintro ⟨tx, ⟨block, member, inside⟩, same⟩
    exact ⟨block, member, tx, inside, same⟩

/-- A transaction that was confirmed is so again or waits, unless the pool was dropped. -/
theorem confirmed_or_waiting (keeps : Operation.clearPool ∉ later) {txid : String}
    (before : txid ∈ confirmed (run genesisTime earlier).descending) :
    txid ∈ confirmed (run genesisTime (earlier ++ later)).descending ∨
      txid ∈ (run genesisTime (earlier ++ later)).pool.map Tx.txid := by
  rcases mem_confirmed_descending.mp before with ⟨tx, there, rfl⟩
  have row := (flow_run genesisTime earlier later keeps).subset (List.mem_append_left _ there)
  rcases List.mem_append.mp row with again | waiting
  · exact Or.inl (mem_confirmed_descending.mpr ⟨tx, again, rfl⟩)
  · exact Or.inr (List.mem_map_of_mem waiting)

end

/-! ## A round -/

/-- A follower has blocks that the chain had at an earlier time, and anything has been called on
the chain since.  One round leads to the chain of now, from the highest common block on if the
engine can go back to it, and from the first block on without a tip.  Unless the pool was dropped,
what the engine had confirmed is then confirmed again or waits. -/
theorem run_followed (rules : Rules) (calls : List Call) (once : ConfirmedOnce rules calls)
    (genesisTime : Int) (earlier later : List Operation)
    (apart : NamedApart genesisTime (earlier ++ later))
    (different : (confirmed (run genesisTime (earlier ++ later)).descending).Nodup)
    (seen : (Session.run rules calls).active ⊆ (run genesisTime earlier).descending)
    {config : FollowerConfig LocalChain} {f : Follower LocalChain}
    (source : config.source = LocalChain.source)
    (beside : f.sourceState = run genesisTime (earlier ++ later))
    (engine : f.engine = (Session.run rules calls).engine) :
    let chain := run genesisTime (earlier ++ later)
    (∀ tip common, f.engine.tip = some tip →
      HighestCommon (Session.run rules calls).active chain.descending common →
      common = tip.height ∨ (f.engine.undoChain.get? common).isSome →
      f.Converges config rules (since rules.params.genesisBlock chain.descending)
        ⟨tip.height - common, chain.tip.height - common⟩) ∧
    (f.engine.tip = none →
      f.Converges config rules (since rules.params.genesisBlock chain.descending)
        ⟨0, chain.tip.height + 1 - rules.params.genesisBlock⟩) ∧
    (Operation.clearPool ∉ later → ∀ txid ∈ confirmed (Session.run rules calls).active,
      txid ∈ confirmed chain.descending ∨ txid ∈ chain.pool.map Tx.txid) := by
  intro chain
  have linked : Linked 0 chain.descending := chained_run genesisTime (earlier ++ later)
  have serves : config.source.Serves chain.descending fun state => state = chain :=
    source ▸ run_serves genesisTime (earlier ++ later)
  have part := apart.partForGood (Session.run_follows_books rules calls).linked seen
  change PartForGood _ _ chain.descending at part
  have kept : Operation.clearPool ∉ later → ∀ txid ∈ confirmed (Session.run rules calls).active,
      txid ∈ confirmed chain.descending ∨ txid ∈ chain.pool.map Tx.txid := by
    intro keeps txid member
    rcases List.mem_flatMap.mp member with ⟨block, active, inside⟩
    exact confirmed_or_waiting keeps (List.mem_flatMap.mpr ⟨block, seen active, inside⟩)
  change (confirmed chain.descending).Nodup at different
  rcases List.head?_eq_some_iff.mp chain.descending_head? with ⟨older, shape⟩
  rw [shape] at linked serves part different kept ⊢
  refine ⟨?_, ?_, kept⟩
  · intro tip common
    exact Session.converges_of_tip once engine serves beside linked different part
  · intro noTip
    exact Session.converges_of_no_tip once engine serves beside linked different noTip
      (Nat.zero_le _)

end LocalChain
end TokenOverlay
