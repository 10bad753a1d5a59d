import TokenOverlay.Proofs.Cells

namespace TokenOverlay
namespace Ledger

/-!
The ledger as its readers see it: what a balance is after a write, what the
write does to the sum over all addresses, and that a ledger without empty
entries is determined by the balances it answers.
-/

/-- Both parts of a balance together, without the bound that display puts on them. -/
def held (b : Balance) : Int := b.available + b.reserved

theorem balance_eq_read (l : Ledger) (address : Address) (property : PropertyId) :
    l.balance address property =
      (Cells.read l.balances address property).getD Balance.zero := rfl

/-- A write fills a cell, or clears it if nothing is held. -/
theorem balances_write (l : Ledger) (address : Address) (property : PropertyId) (b : Balance) :
    (l.write address property b).balances =
      if b = Balance.zero then Cells.clear l.balances address property
      else Cells.put l.balances address property b := by
  unfold write Cells.clear
  by_cases nothing : b = Balance.zero
  · rw [if_pos (Balance.isEmpty_iff.mpr nothing), if_pos nothing]
    cases l.balances.get? address with
    | none => rfl
    | some row => exact apply_ite Ledger.balances _ _ _
  · rw [if_neg fun empty => nothing (Balance.isEmpty_iff.mp empty), if_neg nothing]
    rfl

theorem balance_write (l : Ledger) (address other : Address) (property q : PropertyId)
    (b : Balance) :
    (l.write address property b).balance other q =
      if other = address ∧ q = property then b else l.balance other q := by
  simp only [balance_eq_read, balances_write]
  by_cases nothing : b = Balance.zero
  · rw [if_pos nothing, Cells.read_clear]
    by_cases written : other = address ∧ q = property <;> simp [written, nothing]
  · rw [if_neg nothing, Cells.read_put]
    by_cases written : other = address ∧ q = property <;> simp [written]

/-- The form in which a ledger is kept: no empty balance, and no address without balances. -/
structure Canonical (l : Ledger) : Prop where
  compact : Cells.Compact l.balances
  nonzero : ∀ address property b, Cells.read l.balances address property = some b →
    b ≠ Balance.zero

namespace Canonical

theorem empty : Canonical Ledger.empty where
  compact := by
    intro address row found
    cases found
  nonzero := by
    intro address property b found
    cases found

theorem write {l : Ledger} (canonical : l.Canonical) (address : Address) (property : PropertyId)
    (b : Balance) : (l.write address property b).Canonical := by
  by_cases nothing : b = Balance.zero
  · have rows := balances_write l address property b
    rw [if_pos nothing] at rows
    constructor
    · rw [rows]
      exact canonical.compact.clear address property
    · intro other q c found
      rw [rows, Cells.read_clear] at found
      split at found
      · cases found
      · exact canonical.nonzero other q c found
  · have rows := balances_write l address property b
    rw [if_neg nothing] at rows
    constructor
    · rw [rows]
      exact canonical.compact.put address property b
    · intro other q c found
      rw [rows, Cells.read_put] at found
      split at found
      · cases found
        exact nothing
      · exact canonical.nonzero other q c found

theorem read_eq {l : Ledger} (canonical : l.Canonical) (address : Address)
    (property : PropertyId) :
    Cells.read l.balances address property =
      if l.balance address property = Balance.zero then none
      else some (l.balance address property) := by
  rw [balance_eq_read]
  cases found : Cells.read l.balances address property with
  | none => simp
  | some b => simp [canonical.nonzero address property b found]

/-- Two canonical ledgers that answer the same balances are the same. -/
theorem ext {left right : Ledger} (canonicalLeft : left.Canonical)
    (canonicalRight : right.Canonical)
    (same : ∀ address property, left.balance address property = right.balance address property) :
    left = right := by
  have rows : left.balances = right.balances := by
    apply canonicalLeft.compact.ext canonicalRight.compact
    intro address property
    rw [canonicalLeft.read_eq, canonicalRight.read_eq, same]
  cases left
  cases right
  cases rows
  rfl

/-- Writing back the balance that was there takes a write back. -/
theorem write_write_balance {l : Ledger} (canonical : l.Canonical) (address : Address)
    (property : PropertyId) (b : Balance) :
    (l.write address property b).write address property (l.balance address property) = l := by
  apply ext ((canonical.write address property b).write _ _ _) canonical
  intro other q
  rw [balance_write, balance_write]
  split
  · next written => rw [written.1, written.2]
  · rfl

end Canonical

/-! ## Sums over all addresses -/

theorem totalFor_eq_column (l : Ledger) (property : PropertyId) :
    l.totalFor property = Cells.column held l.balances property := by
  have cells : ∀ rows : List (SortedMap PropertyId Balance),
      Amount.total ((rows.filterMap fun row => row.get? property).map
          fun b => b.available + b.reserved) =
        Amount.total (rows.map fun row => SortedMap.weightAt held (row.get? property)) := by
    intro rows
    induction rows with
    | nil => rfl
    | cons row rest ih =>
        cases found : row.get? property with
        | none => simpa [List.filterMap_cons, found] using ih
        | some b => simpa [List.filterMap_cons, found, held] using ih
  exact cells l.balances.values

theorem weightAt_held (l : Ledger) (address : Address) (property : PropertyId) :
    SortedMap.weightAt held (Cells.read l.balances address property) =
      held (l.balance address property) := by
  rw [balance_eq_read]
  cases Cells.read l.balances address property <;> rfl

/-- A write changes the sum of its property by the difference it makes to the balance. -/
theorem totalFor_write (l : Ledger) (address : Address) (property q : PropertyId) (b : Balance) :
    (l.write address property b).totalFor q =
      l.totalFor q + if q = property then held b - held (l.balance address property) else 0 := by
  rw [totalFor_eq_column, totalFor_eq_column, balances_write, ← weightAt_held]
  by_cases nothing : b = Balance.zero
  · rw [if_pos nothing, Cells.column_clear, nothing]
    simp only [held, Balance.zero]
    split <;> omega
  · rw [if_neg nothing, Cells.column_put]

/-- When nothing held is negative, no address holds more than all together. -/
theorem held_le_totalFor {l : Ledger} {property : PropertyId}
    (nonneg : ∀ address, 0 ≤ held (l.balance address property)) (address : Address) :
    held (l.balance address property) ≤ l.totalFor property := by
  rw [totalFor_eq_column, ← weightAt_held]
  apply Cells.weight_le_column
  intro other b found
  have bound := nonneg other
  rw [balance_eq_read, found] at bound
  exact bound

theorem totalFor_empty (property : PropertyId) : Ledger.empty.totalFor property = 0 := rfl

end Ledger
end TokenOverlay
