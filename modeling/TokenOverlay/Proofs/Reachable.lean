import TokenOverlay.Proofs.Session

namespace TokenOverlay

/-!
What holds of every engine in use, whatever blocks and rollbacks it has seen:
supply is conserved, the reserve is what the order book offers, and rejected
transactions leave nothing behind.
-/

/-- The books alone, without looking at the chain. -/
def Engine.booksOnly (rules : Rules) : Engine.Invariant rules where
  allowed _ := True
  holds _ _ := True
  genesis := trivial
  block := fun _ _ _ _ _ _ => trivial
  forget := fun _ _ _ _ _ _ _ _ => trivial

namespace Session

variable (rules : Rules) (calls : List Call)

theorem run_follows_books :
    Engine.Follows (Engine.booksOnly rules) (run rules calls).engine (run rules calls).active :=
  run_follows (Engine.booksOnly rules) calls fun _ _ => trivial

theorem run_sound : (run rules calls).engine.state.Sound :=
  (run_follows_books rules calls).unwinds.sound

/-! ## Supply and reserve -/

/-- In every engine in use the registered supply is what the addresses hold together, nothing
held is negative, only registered properties are held, and the supply check that ends a rollback
passes: a rollback is refused for missing undo entries only. -/
theorem run_conserves_supply :
    (∀ property p, (run rules calls).engine.state.registry.get? property = some p →
      p.totalTokens = (run rules calls).engine.state.ledger.totalFor property) ∧
    (∀ address property,
      0 ≤ (run rules calls).engine.state.ledger.available address property ∧
      0 ≤ (run rules calls).engine.state.ledger.reserved address property) ∧
    (∀ address row property b,
      (run rules calls).engine.state.ledger.balances.get? address = some row →
      row.get? property = some b →
      (run rules calls).engine.state.registry.exists? property = true) ∧
    (run rules calls).engine.state.supplyMismatches = [] ∧
    ∀ height, ((run rules calls).engine.rollbackTo height).2.verifySupply = .ok () ∧
      ∀ reason, ((run rules calls).engine.rollbackTo height).1 = .error reason →
        ∃ missing, (run rules calls).engine.undoChain.get? missing = none ∧
          reason = .reorgInconsistency
            s!"no undo log for block {missing} while rolling back to {height}" := by
  have follows := run_follows_books rules calls
  have sound := run_sound rules calls
  refine ⟨?_, sound.nonneg, ?_, sound.supplyMismatches_eq_nil, ?_⟩
  · intro property p found
    rw [← sound.supplyOf_eq_totalFor, Registry.supplyOf, found]
    rfl
  · intro address row property b atAddress inRow
    have entry : Cells.read (run rules calls).engine.state.ledger.balances address property =
        some b := by
      rw [Cells.read, atAddress]
      exact inRow
    exact sound.registered_of_read entry
  · intro height
    refine ⟨follows.verifySupply_rollbackTo height, ?_⟩
    intro reason refused
    rcases follows.rollbackTo height with ⟨_, _, outcome, _⟩ | ⟨missing, _, _, gone, outcome⟩
    · rw [outcome] at refused
      cases refused
    · rw [outcome] at refused
      cases refused
      exact ⟨missing, gone, rfl⟩

/-- In every engine in use an address has reserved of a property what its open offer still
offers, and offers are filed under their own seller and property. -/
theorem run_reserves_offers (address : Address) (property : PropertyId) :
    (run rules calls).engine.state.ledger.reserved address property =
      (((run rules calls).engine.state.orders.get? address property).map
        Offer.amountRemaining).getD 0 ∧
    ∀ offer, (run rules calls).engine.state.orders.get? address property = some offer →
      offer.seller = address ∧ offer.propertyId = property := by
  have sound := run_sound rules calls
  have reserve := sound.escrow address property
  rw [Pi.zero_apply, Pi.zero_apply, Int.add_zero] at reserve
  exact ⟨reserve, sound.keyed address property⟩

end Session

/-! ## Rejected transactions -/

namespace Engine

/-- Forgetting old entries leaves the entries of the other blocks as they are. -/
theorem entries_pruneUndo (rules : Rules) (height : Nat) {left right : SortedMap Nat BlockUndo}
    (same : ∀ h, (left.get? h).map BlockUndo.entries = (right.get? h).map BlockUndo.entries)
    (h : Nat) :
    ((pruneUndo rules height left).get? h).map BlockUndo.entries =
      ((pruneUndo rules height right).get? h).map BlockUndo.entries := by
  rw [get?_pruneUndo, get?_pruneUndo]
  split
  · exact same h
  · rfl

/-- A block without its rejected transactions is accepted like the block itself and leads to the
same state, tip and undo entries. -/
theorem applyBlock_thinned {e after : Engine} {block : Block} {summary : BlockSummary}
    (formed : e.state.Canonical) (applied : e.applyBlock block = .ok (after, summary)) :
    ∃ thinAfter thinSummary,
      e.applyBlock (thinned e.rules block e.state) = .ok (thinAfter, thinSummary) ∧
      thinAfter.state = after.state ∧ thinAfter.tip = after.tip ∧
      ∀ height, (thinAfter.undoChain.get? height).map BlockUndo.entries =
        (after.undoChain.get? height).map BlockUndo.entries := by
  have sameJournal := (processBlock_thinned e.rules block formed).1
  have header : e.misfit? (thinned e.rules block e.state) = e.misfit? block := rfl
  unfold applyBlock at applied ⊢
  rw [header]
  cases fits : e.misfit? block with
  | some reason =>
      rw [fits] at applied
      cases applied
  | none =>
      rw [fits] at applied
      cases applied
      refine ⟨_, _, rfl, congrArg Journal.state sameJournal, rfl, ?_⟩
      apply entries_pruneUndo
      intro h
      rw [SortedMap.get?_insert, SortedMap.get?_insert]
      change (if h = block.height then _ else _ : Option BlockUndo).map _ = _
      split
      · exact congrArg (fun journal => some journal.entries) sameJournal
      · rfl

end Engine

namespace Session

variable (rules : Rules) (calls : List Call)

open Engine (processTransaction processFrom processBlock prelude thinned withoutPlace)

/-- On every engine in use a transaction that comes out invalid leaves the state and the entries
of its block as they were.  So a block without those transactions does the same: the journal is
the same, the other transactions are recorded with the same verdicts and details, and the block
is applied with the same state, tip and undo entries. -/
theorem run_ignores_invalid (block : Block) :
    (∀ (done : List Tx) (position : Nat) (tx : Tx) (journal : Journal),
      journal = (processFrom rules block 0
        (prelude block (.start (run rules calls).engine.state)).2 done).2 →
      (processTransaction rules block position tx journal).1.valid = false →
      (processTransaction rules block position tx journal).2 = journal) ∧
    (processBlock rules (run rules calls).engine.state
        (thinned rules block (run rules calls).engine.state)).2 =
      (processBlock rules (run rules calls).engine.state block).2 ∧
    (processBlock rules (run rules calls).engine.state
        (thinned rules block (run rules calls).engine.state)).1.map withoutPlace =
      ((processBlock rules (run rules calls).engine.state block).1.filter TxRecord.valid).map
        withoutPlace ∧
    ∀ after summary, (run rules calls).engine.applyBlock block = .ok (after, summary) →
      ∃ thinAfter thinSummary,
        (run rules calls).engine.applyBlock
          (thinned rules block (run rules calls).engine.state) = .ok (thinAfter, thinSummary) ∧
        thinAfter.state = after.state ∧ thinAfter.tip = after.tip ∧
        ∀ height, (thinAfter.undoChain.get? height).map BlockUndo.entries =
          (after.undoChain.get? height).map BlockUndo.entries := by
  have formed := (run_sound rules calls).canonical
  have sameRules := (run_follows_books rules calls).sameRules
  have thinning := Engine.processBlock_thinned rules block formed
  refine ⟨?_, thinning.1, thinning.2, ?_⟩
  · rintro done position tx journal rfl invalid
    have start := Engine.trails_prelude block formed (done.map Tx.txid)
    have between := (start.processFrom rules block
      (fun _ member => List.mem_map_of_mem member) 0).canonical
    rcases Engine.processTransaction_cases rules block position tx between with
      ⟨_, same⟩ | ⟨_, _, _, _, valid, _⟩
    · exact same
    · rw [valid] at invalid
      cases invalid
  · intro after summary applied
    have thinned := Engine.applyBlock_thinned formed applied
    rw [sameRules] at thinned
    exact thinned

end Session
end TokenOverlay
