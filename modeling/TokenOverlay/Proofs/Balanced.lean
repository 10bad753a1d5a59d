import Mathlib.Algebra.Group.Pi.Lemmas
import Mathlib.Tactic.Abel
import TokenOverlay.Proofs.Undo
import TokenOverlay.Action.Orders

namespace TokenOverlay

/-!
The invariant of the state: the registered supply of every property is what the
balances of it sum to, no balance is negative, and what is reserved is what the
open offers still offer.  In the middle of an action tokens are on their way, so
the invariant names what is missing, and an action restores it when nothing is
missing at its end.
-/

namespace OrderBook

/-- What an offer still offers; nothing if there is none. -/
def remaining (offer : Option Offer) : Int := (offer.map Offer.amountRemaining).getD 0

@[simp] theorem remaining_none : remaining none = 0 := rfl

@[simp] theorem remaining_some (offer : Offer) : remaining (some offer) = offer.amountRemaining :=
  rfl

end OrderBook

/-- An amount in the cell of one address and property, and nothing elsewhere. -/
def cell (address : Address) (property : PropertyId) (amount : Int) :
    Address → PropertyId → Int :=
  Pi.single address (Pi.single property amount)

theorem cell_apply (address other : Address) (property q : PropertyId) (amount : Int) :
    cell address property amount other q =
      if other = address ∧ q = property then amount else 0 := by
  unfold cell
  by_cases sameRow : other = address
  · subst sameRow
    simp [Pi.single_apply]
  · simp [sameRow]

@[simp] theorem cell_zero (address : Address) (property : PropertyId) :
    cell address property 0 = 0 := by
  simp [cell]

theorem cell_add (address : Address) (property : PropertyId) (m n : Int) :
    cell address property m + cell address property n = cell address property (m + n) := by
  simp [cell, Pi.single_add]

namespace State

/-- The books of a state, up to what is on its way: `loose` is supply that no balance holds and
`unbacked` is reserve that no offer stands for. -/
structure Balanced (s : State) (loose : PropertyId → Int)
    (unbacked : Address → PropertyId → Int) : Prop where
  canonical : s.Canonical
  nonneg : ∀ address property, 0 ≤ s.ledger.available address property ∧
    0 ≤ s.ledger.reserved address property
  supply : ∀ property,
    s.registry.supplyOf property = s.ledger.totalFor property + loose property
  escrow : ∀ seller property, s.ledger.reserved seller property =
    OrderBook.remaining (s.orders.get? seller property) + unbacked seller property
  keyed : ∀ seller property offer, s.orders.get? seller property = some offer →
    offer.seller = seller ∧ offer.propertyId = property

/-- Nothing is on its way. -/
abbrev Sound (s : State) : Prop := s.Balanced 0 0

theorem Sound.initial : Sound State.initial where
  canonical := Canonical.initial
  nonneg := by
    intro address property
    exact ⟨Int.le_refl 0, Int.le_refl 0⟩
  supply := by
    intro property
    rw [State.initial, Registry.supplyOf_initial, Ledger.totalFor_empty, Pi.zero_apply,
      Int.add_zero]
  escrow := by
    intro seller property
    rfl
  keyed := by
    intro seller property offer found
    cases found

namespace Balanced

variable {s : State} {loose : PropertyId → Int} {unbacked : Address → PropertyId → Int}

theorem forget (balanced : s.Balanced loose unbacked) (gone : List String) :
    (s.forget gone).Balanced loose unbacked :=
  { balanced with canonical := balanced.canonical.forget gone }

/-- States that differ in sales, features and receipts only have the same books. -/
theorem of_same {t : State} (balanced : s.Balanced loose unbacked) (canonical : t.Canonical)
    (registry : t.registry = s.registry) (ledger : t.ledger = s.ledger)
    (orders : t.orders = s.orders) : t.Balanced loose unbacked where
  canonical := canonical
  nonneg := by
    rw [ledger]
    exact balanced.nonneg
  supply := by
    rw [registry, ledger]
    exact balanced.supply
  escrow := by
    rw [ledger, orders]
    exact balanced.escrow
  keyed := by
    rw [orders]
    exact balanced.keyed

theorem balance_nonneg (balanced : s.Balanced loose unbacked) (address : Address)
    (property : PropertyId) : 0 ≤ (s.ledger.balance address property).available ∧
      0 ≤ (s.ledger.balance address property).reserved :=
  balanced.nonneg address property

theorem held_nonneg (balanced : s.Balanced loose unbacked) (address : Address)
    (property : PropertyId) : 0 ≤ Ledger.held (s.ledger.balance address property) := by
  have parts := balanced.balance_nonneg address property
  exact Int.add_nonneg parts.1 parts.2

/-- What an address holds is part of the supply that is not on its way. -/
theorem held_le_supply (balanced : s.Balanced loose unbacked) (address : Address)
    (property : PropertyId) :
    Ledger.held (s.ledger.balance address property) ≤
      s.registry.supplyOf property - loose property := by
  have part := Ledger.held_le_totalFor (fun other => balanced.held_nonneg other property) address
  have whole := balanced.supply property
  omega

theorem available_le_supply (balanced : s.Balanced loose unbacked) (address : Address)
    (property : PropertyId) :
    (s.ledger.balance address property).available ≤
      s.registry.supplyOf property - loose property := by
  have part := balanced.held_le_supply address property
  have reserve := (balanced.balance_nonneg address property).2
  unfold Ledger.held at part
  omega

/-! ## One edit -/

/-- A new balance takes from what is on its way what it holds more than the old one. -/
theorem balance (balanced : s.Balanced loose unbacked) {address : Address}
    {property : PropertyId} {next : Balance} (nonneg : 0 ≤ next.available ∧ 0 ≤ next.reserved) :
    (s.apply (.balance address property next)).Balanced
      (loose - Pi.single property
        (Ledger.held next - Ledger.held (s.ledger.balance address property)))
      (unbacked + cell address property
        (next.reserved - s.ledger.reserved address property)) := by
  have written : ∀ other q, (s.apply (.balance address property next)).ledger.balance other q =
      if other = address ∧ q = property then next else s.ledger.balance other q :=
    fun other q => s.ledger.balance_write address other property q next
  constructor
  · exact balanced.canonical.apply (.balance address property next) trivial
  · intro other q
    unfold Ledger.available Ledger.reserved
    rw [written]
    split
    · exact nonneg
    · exact balanced.nonneg other q
  · intro q
    have total : (s.apply (.balance address property next)).ledger.totalFor q = _ :=
      s.ledger.totalFor_write address property q next
    have before := balanced.supply q
    rw [total, Pi.sub_apply, Pi.single_apply]
    change s.registry.supplyOf q = _
    split <;> omega
  · intro other q
    have before := balanced.escrow other q
    unfold Ledger.reserved at before ⊢
    rw [written, Pi.add_apply, Pi.add_apply, cell_apply]
    change _ = OrderBook.remaining (s.orders.get? other q) + _
    split
    · next here =>
        rw [here.1, here.2] at before ⊢
        omega
    · omega
  · exact balanced.keyed

/-- A new supply puts on its way what it exceeds the old one by. -/
theorem changeSupply (balanced : s.Balanced loose unbacked) {property : PropertyId} {p : Property}
    (total : Int) (registered : s.registry.get? property = some p) :
    (s.apply (.supply property total)).Balanced
      (loose + Pi.single property (total - p.totalTokens)) unbacked := by
  constructor
  · exact balanced.canonical.apply (.supply property total) trivial
  · exact balanced.nonneg
  · intro q
    have after : (s.apply (.supply property total)).registry.supplyOf q = _ :=
      s.registry.supplyOf_withSupply property q total
    have before := balanced.supply q
    rw [after, Pi.add_apply, Pi.single_apply]
    change _ = s.ledger.totalFor q + _
    by_cases here : q = property
    · subst here
      have old : s.registry.supplyOf q = p.totalTokens := by simp [Registry.supplyOf, registered]
      simp only [registered, Option.isSome_some, and_self, if_true]
      omega
    · simp only [here, false_and, if_false]
      omega
  · exact balanced.escrow
  · exact balanced.keyed

/-- A new property starts without any tokens. -/
theorem register (balanced : s.Balanced loose unbacked) {p : Property} {next : PropertyId}
    (admits : s.registry.Admits p next) (nothing : p.totalTokens = 0) :
    (s.apply (.register p next)).Balanced loose unbacked := by
  constructor
  · exact balanced.canonical.apply (.register p next) admits
  · exact balanced.nonneg
  · intro q
    have free := balanced.canonical.registry.free_of_admits admits
    have before := balanced.supply q
    have found := s.registry.get?_added p next q
    change (s.registry.added p next).supplyOf q = s.ledger.totalFor q + loose q
    unfold Registry.supplyOf at before ⊢
    rw [found]
    split
    · next here =>
        subst here
        rw [free] at before
        rw [← before, Option.map_some, Option.getD_some, nothing]
        rfl
    · exact before
  · exact balanced.escrow
  · exact balanced.keyed

/-- A new offer backs reserve, and an old one leaves its reserve behind. -/
theorem offer (balanced : s.Balanced loose unbacked) {seller : Address} {property : PropertyId}
    {next : Option Offer}
    (keyed : ∀ o, next = some o → o.seller = seller ∧ o.propertyId = property) :
    (s.apply (.offer seller property next)).Balanced loose
      (unbacked + cell seller property
        (OrderBook.remaining (s.orders.get? seller property) - OrderBook.remaining next)) := by
  have written : ∀ other q, (s.apply (.offer seller property next)).orders.get? other q =
      if other = seller ∧ q = property then next else s.orders.get? other q :=
    fun other q => s.orders.get?_write seller other property q next
  constructor
  · exact balanced.canonical.apply (.offer seller property next) trivial
  · exact balanced.nonneg
  · exact balanced.supply
  · intro other q
    have before := balanced.escrow other q
    rw [written, Pi.add_apply, Pi.add_apply, cell_apply]
    change s.ledger.reserved other q = _
    split
    · next here =>
        rw [here.1, here.2] at before ⊢
        omega
    · omega
  · intro other q o found
    rw [written] at found
    split at found
    · next here =>
        rw [here.1, here.2]
        exact keyed o found
    · exact balanced.keyed other q o found

end Balanced
end State
end TokenOverlay
