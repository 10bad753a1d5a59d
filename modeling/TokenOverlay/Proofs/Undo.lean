import TokenOverlay.Proofs.Attempt
import TokenOverlay.Proofs.Ledger
import TokenOverlay.Proofs.Books
import TokenOverlay.Proofs.Registry

namespace TokenOverlay

/-!
Edits can be taken back exactly.  This needs the tables to be in the form in
which they are kept, and a new property to come under the next number; both
are stated here once and hold along every run of edits.

Receipts are left to the end of the module.  An edit that writes a receipt is
taken back by removing it, which forgets a receipt that an earlier transaction
of the same name may have left.
-/

namespace State

/-- The form in which the tables of a state are kept. -/
structure Canonical (s : State) : Prop where
  registry : s.registry.Numbered
  ledger : s.ledger.Canonical
  crowdsales : s.crowdsales.Compact
  orders : s.orders.Compact

theorem Canonical.initial : State.initial.Canonical where
  registry := Registry.Numbered.initial
  ledger := Ledger.Canonical.empty
  crowdsales := CrowdsaleBook.Compact.empty
  orders := OrderBook.Compact.empty

/-- The edits that are taken back exactly, whatever receipts there are. -/
def Admits (s : State) : Edit → Prop
  | .register property next => s.registry.Admits property next
  | .receipt _ => False
  | _ => True

/-- An admitted edit keeps the tables in form. -/
theorem Canonical.apply {s : State} (canonical : s.Canonical) (edit : Edit)
    (admits : s.Admits edit) : (s.apply edit).Canonical := by
  cases edit with
  | balance address property next =>
      exact { canonical with ledger := canonical.ledger.write address property next }
  | supply property total =>
      exact { canonical with registry := canonical.registry.withSupply property total }
  | register property next =>
      exact { canonical with registry := canonical.registry.added admits }
  | sale sale =>
      exact { canonical with crowdsales := canonical.crowdsales.withSale sale.propertyId _ }
  | participation property p =>
      exact { canonical with crowdsales := canonical.crowdsales.addParticipation property p }
  | offer seller property offer =>
      exact { canonical with orders := canonical.orders.write seller property offer }
  | feature id feature => exact { canonical with }
  | receipt receipt => exact admits.elim

/-- Taking an admitted edit back restores the state. -/
theorem revert_apply {s : State} (canonical : s.Canonical) {edit : Edit}
    (admits : s.Admits edit) : (s.apply edit).revert (s.inverse edit) = s := by
  cases edit with
  | balance address property next =>
      exact congrArg (fun ledger => { s with ledger := ledger })
        (canonical.ledger.write_write_balance address property next)
  | supply property total =>
      exact congrArg (fun registry => { s with registry := registry })
        (s.registry.withSupply_withSupply property total)
  | register property next =>
      exact congrArg (fun registry => { s with registry := registry })
        (Registry.erase_added (canonical.registry.free_of_admits admits))
  | sale sale =>
      exact congrArg (fun book => { s with crowdsales := book })
        (s.crowdsales.withSale_withSale sale.propertyId sale)
  | participation property p =>
      exact congrArg (fun book => { s with crowdsales := book })
        (canonical.crowdsales.dropParticipation_addParticipation property p)
  | offer seller property offer =>
      exact congrArg (fun book => { s with orders := book })
        (canonical.orders.write_write_get? seller property offer)
  | feature id feature =>
      exact congrArg (fun table => { s with features := table })
        (s.features.withFeature_withFeature id feature)
  | receipt receipt => exact admits.elim

theorem receipts_apply {s : State} {edit : Edit} (admits : s.Admits edit) :
    (s.apply edit).receipts = s.receipts := by
  cases edit <;> first | rfl | exact admits.elim

@[simp] theorem revertAll_cons (s : State) (entry : UndoEntry) (entries : List UndoEntry) :
    s.revertAll (entry :: entries) = (s.revert entry).revertAll entries := rfl

theorem revertAll_append (s : State) (newer older : List UndoEntry) :
    s.revertAll (newer ++ older) = (s.revertAll newer).revertAll older :=
  List.foldl_append

end State

/-! ## Runs of edits -/

namespace Journal

/-- One journal comes from another one by admitted edits. -/
inductive Extends (journal : Journal) : Journal → Prop
  | refl : Extends journal journal
  | record {between : Journal} {edit : Edit} :
      Extends journal between → between.state.Admits edit → Extends journal (between.record edit)

namespace Extends

variable {first second third : Journal}

theorem canonical (run : Extends first second) (formed : first.state.Canonical) :
    second.state.Canonical := by
  induction run with
  | refl => exact formed
  | record _ admits ih => exact ih.apply _ admits

theorem receipts (run : Extends first second) : second.state.receipts = first.state.receipts := by
  induction run with
  | refl => rfl
  | record _ admits ih => exact (State.receipts_apply admits).trans ih

/-- The entries of a run lie above the older ones and take the run back. -/
theorem undo (run : Extends first second) (formed : first.state.Canonical) :
    ∃ entries, second.entries = entries ++ first.entries ∧
      second.state.revertAll entries = first.state := by
  induction run with
  | refl => exact ⟨[], rfl, rfl⟩
  | @record between edit earlier admits ih =>
      rcases ih with ⟨entries, above, back⟩
      refine ⟨between.state.inverse edit :: entries, congrArg (List.cons _) above, ?_⟩
      rw [State.revertAll_cons]
      refine Eq.trans (congrArg (fun s => State.revertAll s entries) ?_) back
      exact State.revert_apply (earlier.canonical formed) admits

/-- A run from an empty journal is taken back by all of its entries. -/
theorem undo_start {s : State} (run : Extends (Journal.start s) second) (formed : s.Canonical) :
    second.state.revertAll second.entries = s := by
  rcases run.undo formed with ⟨entries, above, back⟩
  have all : second.entries = entries := above.trans (List.append_nil entries)
  rw [all]
  exact back

/-- Going back to the mark of a journal takes back whatever came after it, and nothing older. -/
theorem revertTo (run : Extends first second) (formed : first.state.Canonical) :
    second.revertTo first.entries.length = first := by
  rcases run.undo formed with ⟨entries, above, back⟩
  have newer : second.entries.length - first.entries.length = entries.length := by
    rw [above, List.length_append, Nat.add_sub_cancel]
  rw [Journal.revertTo, Journal.since, newer, above, List.take_left, List.drop_left, back]

end Extends
end Journal

/-! ## Forgetting receipts -/

namespace State

/-- The state without the receipts of some transactions. -/
def forget (s : State) (gone : List String) : State :=
  { s with receipts := s.receipts.filterKeys fun txid => !gone.contains txid }

theorem get?_receipts_forget (s : State) (gone : List String) (txid : String) :
    (s.forget gone).receipts.get? txid = if txid ∈ gone then none else s.receipts.get? txid := by
  rw [forget, SortedMap.get?_filterKeys]
  by_cases forgotten : txid ∈ gone <;> simp [forgotten]

/-- States that agree on every table and answer the same receipts are the same. -/
theorem ext_receipts {s t : State} (tables : { t with receipts := s.receipts } = s)
    (same : ∀ txid, s.receipts.get? txid = t.receipts.get? txid) : s = t := by
  rw [← tables, SortedMap.ext_get? same]

theorem forget_forget (s : State) (gone others : List String) :
    (s.forget gone).forget others = s.forget (gone ++ others) := by
  apply ext_receipts rfl
  intro txid
  simp only [get?_receipts_forget, List.mem_append]
  by_cases first : txid ∈ gone <;> by_cases second : txid ∈ others <;> simp [first, second]

/-- Forgetting what is not there changes nothing. -/
theorem forget_eq_self {s : State} {gone : List String}
    (absent : ∀ txid ∈ gone, s.receipts.get? txid = none) : s.forget gone = s := by
  apply ext_receipts rfl
  intro txid
  rw [get?_receipts_forget]
  split
  · next forgotten => exact (absent txid forgotten).symm
  · rfl

@[simp] theorem forget_nil (s : State) : s.forget [] = s :=
  forget_eq_self fun _ absent => absurd absent List.not_mem_nil

theorem get?_receipts_revert (s : State) (txid other : String) :
    (s.revert (.receipt txid)).receipts.get? other =
      if other = txid then none else s.receipts.get? other :=
  SortedMap.get?_erase s.receipts txid other

/-- An entry does not care which receipts were forgotten before. -/
theorem revert_forget (s : State) (gone : List String) (entry : UndoEntry) :
    (s.forget gone).revert entry = (s.revert entry).forget gone := by
  cases entry with
  | receipt txid =>
      apply ext_receipts rfl
      intro other
      simp only [get?_receipts_revert, get?_receipts_forget]
      by_cases same : other = txid <;> simp [same]
  | _ => rfl

theorem revertAll_forget (s : State) (gone : List String) (entries : List UndoEntry) :
    (s.forget gone).revertAll entries = (s.revertAll entries).forget gone := by
  induction entries generalizing s with
  | nil => rfl
  | cons entry rest ih =>
      rw [revertAll_cons, revertAll_cons, revert_forget]
      exact ih (s.revert entry)

theorem Canonical.forget {s : State} (canonical : s.Canonical) (gone : List String) :
    (s.forget gone).Canonical :=
  { canonical with }

theorem get?_receipts_apply (s : State) (receipt : DistributionReceipt) (other : String) :
    (s.apply (.receipt receipt)).receipts.get? other =
      if other = receipt.txid then some receipt else s.receipts.get? other :=
  SortedMap.get?_insert s.receipts receipt.txid other receipt

/-- Taking a receipt back forgets whatever was kept for its transaction. -/
theorem revert_apply_receipt (s : State) (receipt : DistributionReceipt) :
    (s.apply (.receipt receipt)).revert (s.inverse (.receipt receipt)) =
      s.forget [receipt.txid] := by
  apply ext_receipts rfl
  intro other
  rw [inverse, get?_receipts_revert, get?_receipts_apply, get?_receipts_forget]
  by_cases same : other = receipt.txid <;> simp [same]

theorem Canonical.apply_receipt {s : State} (canonical : s.Canonical)
    (receipt : DistributionReceipt) : (s.apply (.receipt receipt)).Canonical :=
  { canonical with }

end State
end TokenOverlay
