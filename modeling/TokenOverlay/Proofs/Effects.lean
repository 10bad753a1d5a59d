import TokenOverlay.Proofs.Bookkeeping

namespace TokenOverlay

/-!
The exact effect of the actions that move tokens, and the exact reason of each
of their refusals.  An action on the ledger rewrites one balance, or two when
tokens change hands, and leaves all other tables alone.
-/

open Attempt TokenOverlay.Action

/-- One balance is another one, and nothing else is. -/
structure State.Rewritten (s : State) (address : Address) (property : PropertyId)
    (next : Balance) (after : State) : Prop where
  others : after = { s with ledger := after.ledger }
  balance : ∀ other q, after.ledger.balance other q =
    if other = address ∧ q = property then next else s.ledger.balance other q

namespace State.Rewritten

variable {s after : State} {address : Address} {property : PropertyId} {next : Balance}
  (rewritten : s.Rewritten address property next after)

include rewritten

theorem registry : after.registry = s.registry := by
  rw [rewritten.others]

theorem crowdsales : after.crowdsales = s.crowdsales := by
  rw [rewritten.others]

theorem balance_self : after.ledger.balance address property = next := by
  rw [rewritten.balance, if_pos ⟨rfl, rfl⟩]

theorem balance_other {q : PropertyId} (different : q ≠ property) (other : Address) :
    after.ledger.balance other q = s.ledger.balance other q := by
  rw [rewritten.balance, if_neg fun same => different same.2]

end State.Rewritten

namespace Ledger

variable {journal : Journal} {address : Address} {property : PropertyId} {amount : Int}

theorem set_effect (next : Balance) :
    (set address property next).Yields
      (fun _ after => journal.state.Rewritten address property next after.state)
      (fun _ _ => False) journal := by
  rw [set, yields_bind, yields_state, yields_ite]
  constructor
  · intro same
    refine ⟨rfl, fun other q => ?_⟩
    split
    · next here => rw [here.1, here.2, same]
    · rfl
  · intro _
    rw [yields_edit]
    exact ⟨rfl, fun other q => journal.state.ledger.balance_write address other property q next⟩

theorem credit_effect :
    (credit address property amount).Yields
      (fun _ after => journal.state.Rewritten address property
        ⟨journal.state.ledger.available address property + amount,
          journal.state.ledger.reserved address property⟩ after.state)
      (fun reason _ => reason = .supplyOverflow ∧
        ¬ Amount.Fits (journal.state.ledger.available address property + amount)) journal := by
  rw [credit, yields_bind, yields_state, yields_bind, yields_add]
  refine ⟨fun _ => ?_, fun overflow => ⟨rfl, overflow⟩⟩
  exact (set_effect _).mono (fun _ _ effect => effect) fun _ _ impossible => impossible.elim

theorem debit_effect :
    (debit address property amount).Yields
      (fun _ after => amount ≤ journal.state.ledger.available address property ∧
        journal.state.Rewritten address property
          ⟨journal.state.ledger.available address property - amount,
            journal.state.ledger.reserved address property⟩ after.state)
      (fun reason _ => reason = .insufficientBalance ∧
        journal.state.ledger.available address property < amount) journal := by
  rw [debit, yields_bind, yields_state, yields_bind, yields_guard]
  refine ⟨fun enough => ?_, fun short => ⟨rfl, Int.not_le.mp short⟩⟩
  exact (set_effect _).mono (fun _ _ effect => ⟨enough, effect⟩)
    fun _ _ impossible => impossible.elim

theorem reserve_effect :
    (reserve address property amount).Yields
      (fun _ after => amount ≤ journal.state.ledger.available address property ∧
        journal.state.Rewritten address property
          ⟨journal.state.ledger.available address property - amount,
            journal.state.ledger.reserved address property + amount⟩ after.state)
      (fun reason _ =>
        (reason = .insufficientBalance ∧
          journal.state.ledger.available address property < amount) ∨
        (reason = .supplyOverflow ∧
          amount ≤ journal.state.ledger.available address property ∧
          ¬ Amount.Fits (journal.state.ledger.reserved address property + amount))) journal := by
  rw [reserve, yields_bind, yields_state, yields_bind, yields_guard]
  refine ⟨fun enough => ?_, fun short => Or.inl ⟨rfl, Int.not_le.mp short⟩⟩
  rw [yields_bind, yields_add]
  refine ⟨fun _ => ?_, fun overflow => Or.inr ⟨rfl, enough, overflow⟩⟩
  exact (set_effect _).mono (fun _ _ effect => ⟨enough, effect⟩)
    fun _ _ impossible => impossible.elim

theorem unreserve_effect :
    (unreserve address property amount).Yields
      (fun _ after => amount ≤ journal.state.ledger.reserved address property ∧
        journal.state.Rewritten address property
          ⟨journal.state.ledger.available address property + amount,
            journal.state.ledger.reserved address property - amount⟩ after.state)
      (fun reason _ =>
        (reason = .insufficientBalance ∧
          journal.state.ledger.reserved address property < amount) ∨
        (reason = .supplyOverflow ∧
          amount ≤ journal.state.ledger.reserved address property ∧
          ¬ Amount.Fits (journal.state.ledger.available address property + amount))) journal := by
  rw [unreserve, yields_bind, yields_state, yields_bind, yields_guard]
  refine ⟨fun enough => ?_, fun short => Or.inl ⟨rfl, Int.not_le.mp short⟩⟩
  rw [yields_bind, yields_add]
  refine ⟨fun _ => ?_, fun overflow => Or.inr ⟨rfl, enough, overflow⟩⟩
  exact (set_effect _).mono (fun _ _ effect => ⟨enough, effect⟩)
    fun _ _ impossible => impossible.elim

/-- Reserved tokens leave the one balance before they come to the other. -/
theorem transferReserved_effect {target : Address} :
    (transferReserved address target property amount).Yields
      (fun _ after => amount ≤ journal.state.ledger.reserved address property ∧
        ∃ between, journal.state.Rewritten address property
            ⟨journal.state.ledger.available address property,
              journal.state.ledger.reserved address property - amount⟩ between ∧
          between.Rewritten target property
            ⟨between.ledger.available target property + amount,
              between.ledger.reserved target property⟩ after.state)
      (fun reason _ =>
        (reason = .insufficientBalance ∧
          journal.state.ledger.reserved address property < amount) ∨
        (reason = .supplyOverflow ∧
          ∃ between, journal.state.Rewritten address property
              ⟨journal.state.ledger.available address property,
                journal.state.ledger.reserved address property - amount⟩ between ∧
            ¬ Amount.Fits (between.ledger.available target property + amount))) journal := by
  rw [transferReserved, yields_bind, yields_state, yields_bind, yields_guard]
  refine ⟨fun enough => ?_, fun short => Or.inl ⟨rfl, Int.not_le.mp short⟩⟩
  refine (set_effect _).bind ?_ fun _ _ impossible => impossible.elim
  intro _ between released
  refine credit_effect.mono ?_ ?_
  · intro _ after credited
    exact ⟨enough, between.state, released, credited⟩
  · rintro reason _ ⟨rfl, overflow⟩
    exact Or.inr ⟨rfl, between.state, released, overflow⟩

end Ledger
end TokenOverlay
