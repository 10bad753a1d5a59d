import TokenOverlay.Proofs.Undoable

namespace TokenOverlay

/-!
Transactions inside a block.  A rejected one leaves the state and the entries
of its block as they were, so a block without its rejected transactions does
the same.  An accepted one adds entries that take it back, and so the entries
of a whole block take the block back, except that receipts of its transactions
are removed and not restored.
-/

namespace Journal.Commits

variable {s : State} {txid : String} {after : Journal}

theorem canonical (commits : Commits (Journal.start s) txid after) (formed : s.Canonical) :
    after.state.Canonical := by
  cases commits with
  | edits run => exact run.canonical formed
  | receipt run named => exact (run.canonical formed).apply_receipt _

/-- The entries of an accepted message take it back, but for its own receipt. -/
theorem undo (commits : Commits (Journal.start s) txid after) (formed : s.Canonical) :
    ∃ gone ⊆ [txid], after.state.revertAll after.entries = s.forget gone := by
  cases commits with
  | edits run =>
      refine ⟨[], List.nil_subset _, ?_⟩
      rw [run.undo_start formed, State.forget_nil]
  | @receipt between receipt run named =>
      refine ⟨[txid], List.Subset.refl _, ?_⟩
      rw [record, State.revertAll_cons, State.revert_apply_receipt, State.revertAll_forget,
        run.undo_start formed, named]

theorem receipts (commits : Commits (Journal.start s) txid after) {other : String}
    (found : (after.state.receipts.get? other).isSome) :
    (s.receipts.get? other).isSome ∨ other = txid := by
  cases commits with
  | edits run =>
      rw [run.receipts] at found
      exact Or.inl found
  | receipt run named =>
      rw [record, State.get?_receipts_apply, run.receipts] at found
      split at found
      · next same => exact Or.inr (same.trans named)
      · exact Or.inl found

end Journal.Commits

namespace Engine

variable (rules : Rules) (block : Block)

/-! ## One transaction -/

/-- A transaction whose payload is a message is rejected for the reason that the message is, and
then leaves no trace, or is recorded as accepted and adds its entries above those of the block. -/
theorem processTransaction_read (position : Nat) {tx : Tx} {m : Message}
    (decoded : Message.decode tx.payload = .ok m) {journal : Journal}
    (formed : journal.state.Canonical) :
    (∃ reason after, Execute.message rules (contextOf block tx) m (.start journal.state) =
        (.error reason, after) ∧
      processTransaction rules block position tx journal =
        ({ TxRecord.opening block position tx with payload := some m.payload }.rejected reason,
          journal)) ∨
      ∃ details after, Execute.message rules (contextOf block tx) m (.start journal.state) =
          (.ok details, after) ∧
        processTransaction rules block position tx journal =
          ({ TxRecord.opening block position tx with
              payload := some m.payload, valid := true, details },
            ⟨after.state, after.entries ++ journal.entries⟩) := by
  unfold processTransaction
  rw [decoded]
  have edits := Journal.message_yields rules (contextOf block tx) m (.start journal.state)
  rcases run : Execute.message rules (contextOf block tx) m (.start journal.state) with
    ⟨reason | details, after⟩
  · have back := (edits.of_error run).undo_start formed
    have settled : settle (Execute.message rules (contextOf block tx) m) journal =
        (.error reason, journal) := by
      simp only [settle, run, back]
    refine Or.inl ⟨reason, after, rfl, ?_⟩
    dsimp only
    rw [settled]
  · have settled : settle (Execute.message rules (contextOf block tx) m) journal =
        (.ok details, ⟨after.state, after.entries ++ journal.entries⟩) := by
      simp only [settle, run]
    refine Or.inr ⟨details, after, rfl, ?_⟩
    dsimp only
    rw [settled]
    rfl

/-- A transaction either is rejected without a trace, or its payload is a message that is
accepted, which is recorded and adds its entries above those of the block. -/
theorem processTransaction_outcome (position : Nat) (tx : Tx) {journal : Journal}
    (formed : journal.state.Canonical) :
    ((processTransaction rules block position tx journal).1.valid = false ∧
        (processTransaction rules block position tx journal).2 = journal) ∨
      ∃ m details after, Message.decode tx.payload = .ok m ∧
        Execute.message rules (contextOf block tx) m (.start journal.state) =
          (.ok details, after) ∧
        processTransaction rules block position tx journal =
          ({ TxRecord.opening block position tx with
              payload := some m.payload, valid := true, details },
            ⟨after.state, after.entries ++ journal.entries⟩) := by
  cases decoded : Message.decode tx.payload with
  | error reason =>
      unfold processTransaction
      rw [decoded]
      exact Or.inl ⟨rfl, rfl⟩
  | ok m =>
      rcases processTransaction_read rules block position decoded formed with
        ⟨reason, after, _, outcome⟩ | ⟨details, after, run, outcome⟩
      · rw [outcome]
        exact Or.inl ⟨rfl, rfl⟩
      · exact Or.inr ⟨m, details, after, rfl, run, outcome⟩

/-- The same without the record. -/
theorem processTransaction_cases (position : Nat) (tx : Tx) {journal : Journal}
    (formed : journal.state.Canonical) :
    ((processTransaction rules block position tx journal).1.valid = false ∧
        (processTransaction rules block position tx journal).2 = journal) ∨
      ∃ m details after, Execute.message rules (contextOf block tx) m (.start journal.state) =
          (.ok details, after) ∧
        (processTransaction rules block position tx journal).1.valid = true ∧
        (processTransaction rules block position tx journal).2 =
          ⟨after.state, after.entries ++ journal.entries⟩ := by
  rcases processTransaction_outcome rules block position tx formed with
    rejected | ⟨m, details, after, _, run, outcome⟩
  · exact Or.inl rejected
  · refine Or.inr ⟨m, details, after, run, ?_⟩
    rw [outcome]
    exact ⟨rfl, rfl⟩

/-- The place in the block is only noted in the record. -/
theorem processTransaction_position (position other : Nat) (tx : Tx) (journal : Journal) :
    processTransaction rules block position tx journal =
      ({ (processTransaction rules block other tx journal).1 with position := position },
        (processTransaction rules block other tx journal).2) := by
  unfold processTransaction
  cases Message.decode tx.payload with
  | error reason => rfl
  | ok m =>
      dsimp only
      rcases settle (Execute.message rules (contextOf block tx) m) journal with
        ⟨reason | details, after⟩ <;> rfl

/-! ## The transactions of a block -/

/-- What a journal is to the state its block started from. -/
structure Trails (base : State) (txids : List String) (journal : Journal) : Prop where
  canonical : journal.state.Canonical
  undo : ∃ gone ⊆ txids, journal.state.revertAll journal.entries = base.forget gone
  receipts : ∀ txid, (journal.state.receipts.get? txid).isSome →
    (base.receipts.get? txid).isSome ∨ txid ∈ txids

theorem Trails.processTransaction {base : State} {txids : List String} {journal : Journal}
    (trails : Trails base txids journal) (position : Nat) {tx : Tx} (listed : tx.txid ∈ txids) :
    Trails base txids (Engine.processTransaction rules block position tx journal).2 := by
  rcases processTransaction_cases rules block position tx trails.canonical with
    ⟨_, same⟩ | ⟨m, details, after, run, _, grown⟩
  · rw [same]
    exact trails
  · have commits := (Journal.message_yields rules (contextOf block tx) m
      (.start journal.state)).of_ok run
    rw [grown]
    constructor
    · exact commits.canonical trails.canonical
    · rcases trails.undo with ⟨older, olderListed, olderBack⟩
      rcases commits.undo trails.canonical with ⟨newer, newerListed, newerBack⟩
      refine ⟨older ++ newer, List.append_subset.mpr ⟨olderListed, ?_⟩, ?_⟩
      · intro txid member
        rw [List.mem_singleton.mp (newerListed member)]
        exact listed
      · rw [State.revertAll_append, newerBack, State.revertAll_forget, olderBack,
          State.forget_forget]
    · intro txid found
      rcases commits.receipts found with older | same
      · exact trails.receipts txid older
      · exact Or.inr (same ▸ listed)

theorem Trails.processFrom {base : State} {txids : List String} {transactions : List Tx}
    (listed : ∀ tx ∈ transactions, tx.txid ∈ txids) {journal : Journal}
    (trails : Trails base txids journal) (position : Nat) :
    Trails base txids (Engine.processFrom rules block position journal transactions).2 := by
  induction transactions generalizing journal position with
  | nil => exact trails
  | cons tx rest ih =>
      exact ih (fun other member => listed other (List.mem_cons_of_mem tx member))
        (trails.processTransaction rules block position (listed tx List.mem_cons_self))
        (position + 1)

/-- The start of a block is a run of edits. -/
theorem prelude_extends (state : State) :
    (Journal.start state).Extends (prelude block (.start state)).2 := by
  have edits := Journal.prelude_yields block (.start state)
  rcases outcome : prelude block (.start state) with ⟨reason | value, after⟩
  · exact edits.of_error outcome
  · exact edits.of_ok outcome

theorem trails_prelude {state : State} (formed : state.Canonical) (txids : List String) :
    Trails state txids (prelude block (.start state)).2 := by
  have run := prelude_extends block state
  constructor
  · exact run.canonical formed
  · refine ⟨[], List.nil_subset _, ?_⟩
    rw [run.undo_start formed, State.forget_nil]
  · intro txid found
    rw [run.receipts] at found
    exact Or.inl found

/-- What a whole block leaves behind. -/
theorem trails_processBlock {state : State} (formed : state.Canonical) :
    Trails state (block.transactions.map Tx.txid) (processBlock rules state block).2 :=
  (trails_prelude block formed _).processFrom rules block
    (fun _ member => List.mem_map_of_mem member) 0

/-! ## Leaving the rejected transactions out -/

/-- The record of a transaction, wherever it stood in its block. -/
def withoutPlace (record : TxRecord) : TxRecord := { record with position := 0 }

/-- The transactions whose records came out valid. -/
def accepted (transactions : List Tx) (records : List TxRecord) : List Tx :=
  ((transactions.zip records).filter fun pair => pair.2.valid).map Prod.fst

theorem processFrom_accepted (transactions : List Tx) {journal : Journal}
    (formed : journal.state.Canonical) (position other : Nat) :
    (processFrom rules block other journal
        (accepted transactions (processFrom rules block position journal transactions).1)).2 =
      (processFrom rules block position journal transactions).2 ∧
    (processFrom rules block other journal
        (accepted transactions (processFrom rules block position journal transactions).1)).1.map
          withoutPlace =
      ((processFrom rules block position journal transactions).1.filter TxRecord.valid).map
        withoutPlace := by
  induction transactions generalizing journal position other with
  | nil => exact ⟨rfl, rfl⟩
  | cons tx rest ih =>
      have moved := processTransaction_position rules block other position tx journal
      have sameRecord : withoutPlace (processTransaction rules block other tx journal).1 =
          withoutPlace (processTransaction rules block position tx journal).1 := by
        rw [moved]
        rfl
      have sameJournal : (processTransaction rules block other tx journal).2 =
          (processTransaction rules block position tx journal).2 := by
        rw [moved]
      rcases processTransaction_cases rules block position tx formed with
        ⟨invalid, same⟩ | ⟨m, details, after, run, valid, grown⟩
      · have later := ih formed (position + 1) other
        simp only [processFrom, same, accepted, List.zip_cons_cons, List.filter_cons, invalid]
        exact later
      · have edits := Journal.message_yields rules (contextOf block tx) m
          (.start journal.state)
        have formedAfter :
            (Journal.mk after.state (after.entries ++ journal.entries)).state.Canonical :=
          (edits.of_ok run).canonical formed
        have later := ih formedAfter (position + 1) (other + 1)
        simp only [processFrom, grown, accepted, List.zip_cons_cons, List.filter_cons, valid,
          if_true, List.map_cons, sameJournal, sameRecord]
        exact ⟨later.1, congrArg (List.cons _) later.2⟩

/-- Only the header of a block is looked at while its transactions are processed. -/
theorem processFrom_header (transactions listed : List Tx) (position : Nat) (journal : Journal) :
    processFrom rules { block with transactions := listed } position journal transactions =
      processFrom rules block position journal transactions := by
  induction transactions generalizing position journal with
  | nil => rfl
  | cons tx rest ih =>
      simp only [processFrom, ih]
      rfl

/-- A block without the transactions that come out invalid. -/
def thinned (state : State) : Block :=
  { block with transactions := accepted block.transactions (processBlock rules state block).1 }

theorem processBlock_thinned {state : State} (formed : state.Canonical) :
    (processBlock rules state (thinned rules block state)).2 =
      (processBlock rules state block).2 ∧
    (processBlock rules state (thinned rules block state)).1.map withoutPlace =
      ((processBlock rules state block).1.filter TxRecord.valid).map withoutPlace := by
  have start := (trails_prelude block formed []).canonical
  have same := processFrom_accepted rules block block.transactions start 0 0
  have header := processFrom_header rules block (thinned rules block state).transactions
    (thinned rules block state).transactions 0 (prelude block (.start state)).2
  have whole : processBlock rules state (thinned rules block state) =
      processFrom rules block 0 (prelude block (.start state)).2
        (thinned rules block state).transactions := header
  rw [whole]
  exact same

end Engine
end TokenOverlay
