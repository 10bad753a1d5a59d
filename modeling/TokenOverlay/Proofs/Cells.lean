import TokenOverlay.Proofs.SortedMap
import TokenOverlay.State.Basic

namespace TokenOverlay

/-!
Tables with a row for every address and a cell for every property.  The ledger
and the order book are both kept this way: a row that has lost its last cell is
dropped.  Such a table is compact, and a compact table is determined by its
cells, so that writing back what a cell held restores the table itself.
-/

namespace Cells

variable {β : Type}

/-- A table of rows. -/
abbrev Table (β : Type) := SortedMap Address (SortedMap PropertyId β)

/-- What a cell holds. -/
def read (rows : Table β) (address : Address) (property : PropertyId) : Option β :=
  (rows.get? address).bind fun row => row.get? property

/-- Fill a cell. -/
def put (rows : Table β) (address : Address) (property : PropertyId) (value : β) : Table β :=
  rows.insert address (((rows.get? address).getD .empty).insert property value)

/-- Clear a cell, and drop the row if nothing is left in it. -/
def clear (rows : Table β) (address : Address) (property : PropertyId) : Table β :=
  match rows.get? address with
  | none => rows
  | some row =>
      if (row.erase property).isEmpty then rows.erase address
      else rows.insert address (row.erase property)

/-- No row is empty. -/
def Compact (rows : Table β) : Prop := ∀ address row, rows.get? address = some row → row ≠ .empty

theorem read_put (rows : Table β) (address other : Address) (property q : PropertyId) (value : β) :
    read (put rows address property value) other q =
      if other = address ∧ q = property then some value else read rows other q := by
  unfold read put
  rw [SortedMap.get?_insert]
  by_cases sameRow : other = address
  · subst sameRow
    by_cases sameCell : q = property
    · simp [sameCell]
    · cases found : rows.get? other <;> simp [sameCell, SortedMap.get?_insert]
  · simp [sameRow]

theorem read_clear (rows : Table β) (address other : Address) (property q : PropertyId) :
    read (clear rows address property) other q =
      if other = address ∧ q = property then none else read rows other q := by
  unfold read clear
  cases found : rows.get? address with
  | none =>
      by_cases sameRow : other = address
      · subst sameRow
        simp [found]
      · simp [sameRow]
  | some row =>
      have erased := SortedMap.get?_erase row property
      by_cases vanished : (row.erase property).isEmpty = true
      · have noCell : ∀ q, (row.erase property).get? q = none := by
          intro q
          rw [SortedMap.isEmpty_iff.mp vanished]
          rfl
        by_cases sameRow : other = address
        · subst sameRow
          have emptied := (erased q).symm.trans (noCell q)
          by_cases sameCell : q = property
          · simp [vanished, sameCell]
          · simp only [sameCell, if_false] at emptied
            simp [vanished, found, sameCell, emptied]
        · simp [vanished, SortedMap.get?_erase, sameRow]
      · by_cases sameRow : other = address
        · subst sameRow
          by_cases sameCell : q = property <;> simp [vanished, found, sameCell, erased]
        · simp [vanished, SortedMap.get?_insert, sameRow]

namespace Compact

theorem put {rows : Table β} (compact : Compact rows) (address : Address) (property : PropertyId)
    (value : β) : Compact (Cells.put rows address property value) := by
  intro other row found
  rw [Cells.put, SortedMap.get?_insert] at found
  split at found
  · cases found
    exact SortedMap.insert_ne_empty _ _ _
  · exact compact other row found

theorem clear {rows : Table β} (compact : Compact rows) (address : Address)
    (property : PropertyId) : Compact (Cells.clear rows address property) := by
  unfold Cells.clear
  cases atAddress : rows.get? address with
  | none => exact compact
  | some row =>
      by_cases vanished : (row.erase property).isEmpty = true
      · intro other kept found
        dsimp only at found
        rw [if_pos vanished, SortedMap.get?_erase] at found
        split at found
        · cases found
        · exact compact other kept found
      · intro other kept found
        dsimp only at found
        rw [if_neg vanished, SortedMap.get?_insert] at found
        split at found
        · cases found
          exact fun empty => vanished (SortedMap.isEmpty_iff.mpr empty)
        · exact compact other kept found

/-- Two compact tables with the same cells are the same table. -/
theorem ext {left right : Table β} (compactLeft : Compact left) (compactRight : Compact right)
    (same : ∀ address property, read left address property = read right address property) :
    left = right := by
  apply SortedMap.ext_get?
  intro address
  have cells := same address
  unfold read at cells
  cases atLeft : left.get? address with
  | none =>
      cases atRight : right.get? address with
      | none => rfl
      | some row =>
          rcases SortedMap.exists_get?_of_ne_empty (compactRight address row atRight) with
            ⟨property, value, found⟩
          have missing := cells property
          simp [atLeft, atRight, found] at missing
  | some row =>
      cases atRight : right.get? address with
      | none =>
          rcases SortedMap.exists_get?_of_ne_empty (compactLeft address row atLeft) with
            ⟨property, value, found⟩
          have missing := cells property
          simp [atLeft, atRight, found] at missing
      | some other =>
          congr 1
          apply SortedMap.ext_get?
          intro property
          simpa [atLeft, atRight] using cells property

end Compact

/-- The sum of a weight over the cells of one property. -/
def column (weight : β → Int) (rows : Table β) (property : PropertyId) : Int :=
  rows.sum fun row => SortedMap.weightAt weight (row.get? property)

theorem weightAt_row (weight : β → Int) (rows : Table β) (address : Address)
    (property : PropertyId) :
    SortedMap.weightAt (fun row => SortedMap.weightAt weight (row.get? property))
        (rows.get? address) =
      SortedMap.weightAt weight (read rows address property) := by
  unfold read
  cases rows.get? address <;> rfl

theorem column_put (weight : β → Int) (rows : Table β) (address : Address)
    (property q : PropertyId) (value : β) :
    column weight (put rows address property value) q =
      column weight rows q +
        if q = property then weight value - SortedMap.weightAt weight (read rows address property)
        else 0 := by
  have row := weightAt_row weight rows address q
  unfold column put
  rw [SortedMap.sum_insert, row, SortedMap.get?_insert]
  by_cases sameCell : q = property
  · subst sameCell
    simp only [if_true, SortedMap.weightAt_some]
    omega
  · simp only [sameCell, if_false, read]
    cases rows.get? address <;> simp

theorem column_clear (weight : β → Int) (rows : Table β) (address : Address)
    (property q : PropertyId) :
    column weight (clear rows address property) q =
      column weight rows q -
        if q = property then SortedMap.weightAt weight (read rows address property) else 0 := by
  have row := weightAt_row weight rows address q
  unfold clear
  cases found : rows.get? address with
  | none => simp [read, found]
  | some cells =>
      have erased := SortedMap.get?_erase cells property q
      simp only [column, found, SortedMap.weightAt_some] at row ⊢
      by_cases vanished : (cells.erase property).isEmpty = true
      · rw [if_pos vanished, SortedMap.sum_erase, found, SortedMap.weightAt_some]
        rw [SortedMap.isEmpty_iff.mp vanished, SortedMap.get?_empty] at erased
        by_cases sameCell : q = property
        · subst sameCell
          rw [if_pos rfl, row]
        · rw [if_neg sameCell] at erased ⊢
          rw [← erased, SortedMap.weightAt_none]
      · rw [if_neg vanished, SortedMap.sum_insert, found, SortedMap.weightAt_some, erased]
        by_cases sameCell : q = property
        · subst sameCell
          rw [if_pos rfl, if_pos rfl, row, SortedMap.weightAt_none]
          omega
        · rw [if_neg sameCell, if_neg sameCell]
          omega

/-- Of non-negative weights, that of one cell is at most the sum of its column. -/
theorem weight_le_column {weight : β → Int} {rows : Table β} {property : PropertyId}
    (nonneg : ∀ address value, read rows address property = some value → 0 ≤ weight value)
    (address : Address) :
    SortedMap.weightAt weight (read rows address property) ≤ column weight rows property := by
  have rowNonneg : ∀ other row, rows.get? other = some row →
      0 ≤ SortedMap.weightAt weight (row.get? property) := by
    intro other row found
    cases cell : row.get? property with
    | none => exact Int.le_refl 0
    | some value => exact nonneg other value (by simp [read, found, cell])
  rw [← weightAt_row]
  cases found : rows.get? address with
  | none => exact SortedMap.sum_nonneg rowNonneg
  | some row => exact SortedMap.weight_le_sum rowNonneg found

end Cells
end TokenOverlay
