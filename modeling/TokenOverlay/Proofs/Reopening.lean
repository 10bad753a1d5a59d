import TokenOverlay.Proofs.Ownership
import TokenOverlay.Proofs.Withdrawal

namespace TokenOverlay

/-!
Changing an offer comes to the same as withdrawing it and opening it again.
The two do not write the same: one replaces the old offer, the other removes it
first.  But both release what is left of it before anything is reserved, so
they fail for the same reason, and tables in form that answer the same are the
same.
-/

open Attempt TokenOverlay.Action

namespace OrderBook

/-- Withdraw an offer and open it again with other terms. -/
def reopen (seller : Address) (property : PropertyId) (terms : OfferTerms) : Action Unit := do
  cancel seller property
  create seller property terms

/-- Of two writes of one offer the later one counts. -/
theorem Compact.write_write {book : OrderBook} (compact : book.Compact) (seller : Address)
    (property : PropertyId) (first second : Option Offer) :
    (book.write seller property first).write seller property second =
      book.write seller property second := by
  apply ext ((compact.write seller property first).write _ _ _) (compact.write _ _ _)
  intro other q
  simp only [get?_write]
  split <;> rfl

end OrderBook

/-- The seller has an offer with new terms and a new balance of what it offers, and nothing else
is different. -/
structure State.Reoffered (s : State) (seller : Address) (property : PropertyId)
    (terms : OfferTerms) (next : Balance) (after : State) : Prop where
  others : after =
    { s with
      ledger := after.ledger
      orders := s.orders.write seller property (some (Offer.ofTerms seller property terms)) }
  balance : ∀ other q, after.ledger.balance other q =
    if other = seller ∧ q = property then next else s.ledger.balance other q

namespace State

variable {s between after : State} {seller : Address} {property : PropertyId}
  {terms : OfferTerms} {old next : Balance}

/-- There is one way to give an offer new terms. -/
theorem Reoffered.unique {other : State} (one : s.Reoffered seller property terms next after)
    (second : s.Reoffered seller property terms next other) (formed : after.Canonical)
    (formed' : other.Canonical) : after = other := by
  have ledgers : after.ledger = other.ledger := by
    apply formed.ledger.ext formed'.ledger
    intro address q
    rw [one.balance, second.balance]
  rw [one.others, second.others, ledgers]

/-- A balance that was written before has been written over. -/
theorem Rewritten.reoffered (released : s.Rewritten seller property old between)
    (second : between.Reoffered seller property terms next after) :
    s.Reoffered seller property terms next after where
  others := by
    rw [second.others, released.others]
  balance := by
    intro other q
    rw [second.balance, released.balance]
    split <;> rfl

/-- So has the place of an offer that was withdrawn before. -/
theorem Withdrawn.reoffered {amount : Int} (compact : s.orders.Compact)
    (withdrawn : s.Withdrawn seller property amount between)
    (second : between.Reoffered seller property terms next after) :
    s.Reoffered seller property terms next after where
  others := by
    rw [second.others, withdrawn.others]
    simp only [compact.write_write]
  balance := by
    intro other q
    rw [second.balance, withdrawn.balance]
    split <;> rfl

end State

namespace OrderBook

variable {journal : Journal} {seller : Address} {property : PropertyId} {offer : Offer}
  {terms : OfferTerms}

/-- With nothing else behind an offer, its terms are refused only if the seller cannot spend what
they offer. -/
theorem place_yields {spendable : Int}
    (free : journal.state.ledger.balance seller property = ⟨spendable, 0⟩)
    (fits : spendable ≤ maxTokens) (nonneg : 0 ≤ terms.amount) :
    (do
      Ledger.reserve seller property terms.amount
      Action.edit (.offer seller property
        (some (Offer.ofTerms seller property terms))) : Action Unit).Yields
      (fun _ after => terms.amount ≤ spendable ∧
        journal.state.Reoffered seller property terms ⟨spendable - terms.amount, terms.amount⟩
          after.state)
      (fun reason _ => reason = .insufficientBalance ∧ spendable < terms.amount) journal := by
  have available : journal.state.ledger.available seller property = spendable :=
    congrArg Balance.available free
  have reserved : journal.state.ledger.reserved seller property = 0 :=
    congrArg Balance.reserved free
  refine Ledger.reserve_effect.bind ?_ ?_
  · rintro _ between ⟨enough, rewritten⟩
    rw [available, reserved, Int.zero_add] at rewritten
    rw [available] at enough
    have written := congrArg (fun s : State => s.apply (.offer seller property
      (some (Offer.ofTerms seller property terms)))) rewritten.others
    exact ⟨enough, written, rewritten.balance⟩
  · rintro _ _ (⟨rfl, short⟩ | ⟨_, enough, overflow⟩)
    · exact ⟨rfl, available ▸ short⟩
    · rw [reserved, Int.zero_add] at overflow
      rw [available] at enough
      exact absurd ⟨by unfold Amount.least; omega, enough.trans fits⟩ overflow

/-- The action gives the offer its new terms if the seller has what they offer, in what it can
spend and in what is left of the offer; otherwise it reports that the seller has not. -/
def Reoffers (journal : Journal) (seller : Address) (property : PropertyId) (offer : Offer)
    (terms : OfferTerms) (action : Action Unit) : Prop :=
  action.Yields
    (fun _ after =>
      terms.amount ≤ journal.state.ledger.available seller property + offer.amountRemaining ∧
      journal.state.Reoffered seller property terms
        ⟨journal.state.ledger.available seller property + offer.amountRemaining - terms.amount,
          terms.amount⟩ after.state)
    (fun reason _ => reason = .insufficientBalance ∧
      journal.state.ledger.available seller property + offer.amountRemaining < terms.amount)
    journal

section

variable (sound : journal.state.Sound)
  (capped : journal.state.registry.supplyOf property ≤ maxTokens)
  (found : journal.state.orders.get? seller property = some offer)

include sound capped found

/-- What can be spent once an offer is withdrawn fits, and nothing is reserved then. -/
theorem released_fits :
    journal.state.ledger.available seller property + offer.amountRemaining ≤ maxTokens ∧
      journal.state.ledger.reserved seller property - offer.amountRemaining = 0 := by
  have reserve := reserved_eq_remaining sound found
  have part := sound.held_le_supply seller property
  change journal.state.ledger.available seller property +
    journal.state.ledger.reserved seller property ≤ _ at part
  rw [Pi.zero_apply] at part
  omega

theorem update_reoffers (nonneg : 0 ≤ terms.amount) :
    Reoffers journal seller property offer terms (update seller property terms) := by
  have fits := released_fits sound capped found
  refine yields_bind.mpr (yields_existing.mpr ⟨fun old same => ?_, fun missing => ?_⟩)
  · rw [found] at same
    cases same
    rw [(sound.keyed seller property offer found).1, (sound.keyed seller property offer found).2]
    refine (release_succeeds sound capped found).bind ?_ fun _ _ impossible => impossible.elim
    rintro _ between ⟨_, released⟩
    rw [fits.2] at released
    refine (place_yields released.balance_self fits.1 nonneg).mono ?_ fun _ _ refused => refused
    exact fun _ _ placed => ⟨placed.1, released.reoffered placed.2⟩
  · rw [found] at missing
    cases missing

theorem reopen_reoffers (nonneg : 0 ≤ terms.amount) :
    Reoffers journal seller property offer terms (reopen seller property terms) := by
  have fits := released_fits sound capped found
  refine (cancel_succeeds sound capped found).bind ?_ fun _ _ impossible => impossible.elim
  intro _ between withdrawn
  have gone : between.state.orders.get? seller property = none := by
    rw [withdrawn.others]
    exact (get?_write _ _ _ _ _ _).trans (if_pos ⟨rfl, rfl⟩)
  have released : between.state.ledger.balance seller property =
      ⟨journal.state.ledger.available seller property + offer.amountRemaining, 0⟩ := by
    rw [withdrawn.balance, if_pos ⟨rfl, rfl⟩, fits.2]
  refine yields_bind.mpr (yields_state.mpr (yields_bind.mpr (yields_guard.mpr ⟨fun _ => ?_, ?_⟩)))
  · refine (place_yields released fits.1 nonneg).mono ?_ fun _ _ refused => refused
    exact fun _ _ placed =>
      ⟨placed.1, withdrawn.reoffered sound.canonical.orders placed.2⟩
  · intro taken
    rw [gone] at taken
    exact absurd rfl taken

end

/-! ## In the states of an engine -/

theorem extends_update (journal : Journal) :
    journal.Extends (update seller property terms journal).2 :=
  Journal.Extends.refl.action "" (Condition.keeps_updateOffer Journal.reached_balance
    fun _ _ => Journal.reached_offer _ _ _)

theorem extends_reopen (journal : Journal) :
    journal.Extends (reopen seller property terms journal).2 := by
  refine Journal.Extends.refl.action "" (.bind ?_ fun _ => ?_)
  · exact Condition.keeps_cancelOffer Journal.reached_balance (Journal.reached_offer _ _ _)
  · exact Condition.keeps_createOffer Journal.reached_balance (Journal.reached_offer _ _ _)

/-- In every state that an engine passes through, an open offer gets other terms exactly if it can
be withdrawn and opened again with them, and the states that the two leave behind are the same.
Otherwise the seller has less than the terms offer, is told so, and what was done until then can be
taken back. -/
theorem update_reopens {rules : Rules} (reached : journal.state.Reached rules)
    (found : journal.state.orders.get? seller property = some offer)
    (positive : 0 < terms.amount) :
    let updated := update seller property terms journal
    let reopened := reopen seller property terms journal
    (updated.1 = .ok () ↔ reopened.1 = .ok ()) ∧
    (updated.1 = .ok () → updated.2.state = reopened.2.state ∧
      journal.state.Reoffered seller property terms
        ⟨journal.state.ledger.available seller property + offer.amountRemaining - terms.amount,
          terms.amount⟩ updated.2.state) ∧
    (updated.1 ≠ .ok () → updated.1 = .error .insufficientBalance ∧
      updated.2.revertTo journal.entries.length = journal) ∧
    (updated.1 ≠ .ok () ↔
      journal.state.ledger.available seller property + offer.amountRemaining < terms.amount) := by
  intro updated reopened
  have sound := reached.sound
  have capped := reached.trading.registry.capped property
  have byUpdate := update_reoffers sound capped found positive.le
  have byReopen := reopen_reoffers sound capped found positive.le
  have extendsUpdate : journal.Extends updated.2 := extends_update journal
  have extendsReopen : journal.Extends reopened.2 := extends_reopen journal
  rcases runUpdate : updated with ⟨reason | ⟨⟩, after⟩
  · rcases byUpdate.of_error runUpdate with ⟨rfl, short⟩
    have back := extendsUpdate.revertTo sound.canonical
    rw [runUpdate] at back
    rcases runReopen : reopened with ⟨reason | ⟨⟩, after'⟩
    · exact ⟨⟨nofun, nofun⟩, nofun, fun _ => ⟨rfl, back⟩, fun _ => short, fun _ => nofun⟩
    · exact absurd (byReopen.of_ok runReopen).1 (Int.not_le.mpr short)
  · rcases byUpdate.of_ok runUpdate with ⟨enough, reoffered⟩
    rcases runReopen : reopened with ⟨reason | ⟨⟩, after'⟩
    · exact absurd enough (Int.not_le.mpr (byReopen.of_error runReopen).2)
    · have formed := extendsUpdate.canonical sound.canonical
      have formed' := extendsReopen.canonical sound.canonical
      rw [runUpdate] at formed
      rw [runReopen] at formed'
      have same := reoffered.unique (byReopen.of_ok runReopen).2 formed formed'
      refine ⟨⟨fun _ => rfl, fun _ => rfl⟩, fun _ => ⟨same, reoffered⟩, ?_, ?_⟩
      · exact fun failed => absurd rfl failed
      · exact ⟨fun failed => absurd rfl failed, fun short => absurd enough (Int.not_le.mpr short)⟩

/-- The terms that the seller of `Engine.offered` asks for in place of its first ones. -/
def dearer (amount : Int) : OfferTerms := ⟨amount, 30, 12, 1, "v", 0⟩

theorem update_reopens_offered :
    Engine.offered.state.Reached Session.twoOwners ∧
    Engine.offered.state.orders.get? "a" 1 =
      some (Offer.ofTerms "a" 1 ⟨4, 8, 10, 0, "t", 0⟩) ∧
    (0 < (dearer 9).amount ∧
      (update "a" 1 (dearer 9) Engine.offered).1 = .ok () ∧
      (update "a" 1 (dearer 9) Engine.offered).2.state =
        (reopen "a" 1 (dearer 9) Engine.offered).2.state) ∧
    (0 < (dearer 11).amount ∧
      (update "a" 1 (dearer 11) Engine.offered).1 = .error .insufficientBalance ∧
      (update "a" 1 (dearer 11) Engine.offered).2 ≠ Engine.offered ∧
      (update "a" 1 (dearer 11) Engine.offered).2.revertTo Engine.offered.entries.length =
        Engine.offered) := by
  have reached : Engine.offered.state.Reached Session.twoOwners :=
    .amid [] Engine.offering Engine.offering.transactions
  have found : Engine.offered.state.orders.get? "a" 1 =
      some (Offer.ofTerms "a" 1 ⟨4, 8, 10, 0, "t", 0⟩) := by
    decide +kernel
  have spendable : Engine.offered.state.ledger.available "a" 1 = 6 := by decide +kernel
  have funded := update_reopens reached found (show 0 < (dearer 9).amount by decide)
  have short := update_reopens reached found (show 0 < (dearer 11).amount by decide)
  dsimp only at funded short
  rw [spendable] at funded short
  have accepted := not_not.mp (mt funded.2.2.2.mp (by decide))
  have rejected := short.2.2.1 (short.2.2.2.mpr (by decide))
  have changed : (update "a" 1 (dearer 11) Engine.offered).2 ≠ Engine.offered := by decide +kernel
  exact ⟨reached, found, ⟨by decide, accepted, (funded.2.1 accepted).1⟩, by decide, rejected.1,
    changed, rejected.2⟩

end OrderBook
end TokenOverlay
