import TokenOverlay.SortedMap.Lemmas
import TokenOverlay.Amount

namespace TokenOverlay

/-!
Sums over the values of a map, and how one write changes them.  The supply of
a property is such a sum over the tables of all addresses.
-/

namespace Amount

@[simp] theorem total_nil : total [] = 0 := rfl

@[simp] theorem total_cons (n : Int) (rest : List Int) : total (n :: rest) = n + total rest := rfl

theorem total_nonneg {amounts : List Int} (nonneg : ∀ n ∈ amounts, 0 ≤ n) :
    0 ≤ total amounts := by
  induction amounts with
  | nil => exact Int.le_refl 0
  | cons n rest ih =>
      have first := nonneg n List.mem_cons_self
      have later := ih fun m member => nonneg m (List.mem_cons_of_mem n member)
      simp only [total_cons]
      omega

theorem length_le_total {amounts : List Int} (positive : ∀ n ∈ amounts, 0 < n) :
    (amounts.length : Int) ≤ total amounts := by
  induction amounts with
  | nil => exact Int.le_refl 0
  | cons n rest ih =>
      have first := positive n List.mem_cons_self
      have later := ih fun m member => positive m (List.mem_cons_of_mem n member)
      simp only [total_cons, List.length_cons, Int.natCast_add, Int.natCast_one]
      omega

theorem le_total {amounts : List Int} (nonneg : ∀ n ∈ amounts, 0 ≤ n) {n : Int}
    (member : n ∈ amounts) : n ≤ total amounts := by
  induction amounts with
  | nil => cases member
  | cons m rest ih =>
      have first := nonneg m List.mem_cons_self
      have others : ∀ k ∈ rest, 0 ≤ k := fun k inside => nonneg k (List.mem_cons_of_mem m inside)
      have later := total_nonneg others
      simp only [total_cons]
      rcases List.mem_cons.mp member with rfl | inside
      · omega
      · have bound := ih others inside
        omega

end Amount

namespace SortedMap

variable {κ β : Type} [Ord κ]

/-- What a key adds to a sum over the values. -/
def weightAt (weight : β → Int) (value : Option β) : Int := (value.map weight).getD 0

@[simp] theorem weightAt_none (weight : β → Int) : weightAt weight none = 0 := rfl

@[simp] theorem weightAt_some (weight : β → Int) (value : β) :
    weightAt weight (some value) = weight value := rfl

/-- The sum of a weight over all values. -/
def sum (weight : β → Int) (map : SortedMap κ β) : Int := Amount.total (map.values.map weight)

/-- Writing a value adds its weight and takes away that of the value it replaces. -/
theorem total_place (weight : β → Int) (key : κ) (value : β) (entries : List (κ × β)) :
    Amount.total ((place key value entries).map fun entry => weight entry.2) +
        weightAt weight (lookup key entries) =
      Amount.total (entries.map fun entry => weight entry.2) + weight value := by
  induction entries with
  | nil => simp [place, lookup]
  | cons head rest ih =>
      rcases head with ⟨k, v⟩
      simp only [place, lookup]
      split
      · simp only [List.map_cons, Amount.total_cons, weightAt_none]
        omega
      · simp only [List.map_cons, Amount.total_cons, weightAt_some]
        omega
      · simp only [List.map_cons, Amount.total_cons]
        omega

theorem total_without (weight : β → Int) (key : κ) (entries : List (κ × β)) :
    Amount.total ((without key entries).map fun entry => weight entry.2) +
        weightAt weight (lookup key entries) =
      Amount.total (entries.map fun entry => weight entry.2) := by
  induction entries with
  | nil => simp [without, lookup]
  | cons head rest ih =>
      rcases head with ⟨k, v⟩
      simp only [without, lookup]
      split
      · simp only [weightAt_none]
        omega
      · simp only [List.map_cons, Amount.total_cons, weightAt_some]
        omega
      · simp only [List.map_cons, Amount.total_cons]
        omega

theorem sum_eq_total (weight : β → Int) (map : SortedMap κ β) :
    map.sum weight = Amount.total (map.entries.map fun entry => weight entry.2) := by
  simp [sum, values, Function.comp_def]

theorem sum_erase (weight : β → Int) (map : SortedMap κ β) (key : κ) :
    (map.erase key).sum weight = map.sum weight - weightAt weight (map.get? key) := by
  have removed := total_without weight key map.entries
  simp only [sum_eq_total, erase, get?]
  omega

variable [Std.TransOrd κ]

theorem sum_insert (weight : β → Int) (map : SortedMap κ β) (key : κ) (value : β) :
    (map.insert key value).sum weight =
      map.sum weight - weightAt weight (map.get? key) + weight value := by
  have placed := total_place weight key value map.entries
  simp only [sum_eq_total, insert, get?]
  omega

variable [Std.LawfulEqOrd κ]

theorem mem_values_iff {map : SortedMap κ β} {value : β} :
    value ∈ map.values ↔ ∃ key, map.get? key = some value := by
  simp only [values, List.mem_map, Prod.exists, get?_eq_some_iff]
  constructor
  · rintro ⟨key, v, member, rfl⟩
    exact ⟨key, member⟩
  · rintro ⟨key, member⟩
    exact ⟨key, value, member, rfl⟩

omit [Std.TransOrd κ] in
theorem nodup_keys (map : SortedMap κ β) : map.keys.Nodup := by
  refine List.Pairwise.map Prod.fst ?_ map.ascending
  intro a b before same
  rw [same, Std.ReflOrd.compare_self] at before
  cases before

theorem mem_keys_iff {map : SortedMap κ β} {key : κ} :
    key ∈ map.keys ↔ ∃ value, map.get? key = some value := by
  simp only [keys, List.mem_map, Prod.exists, get?_eq_some_iff]
  constructor
  · rintro ⟨k, value, member, rfl⟩
    exact ⟨value, member⟩
  · rintro ⟨value, member⟩
    exact ⟨key, value, member, rfl⟩

theorem sum_nonneg {weight : β → Int} {map : SortedMap κ β}
    (nonneg : ∀ key value, map.get? key = some value → 0 ≤ weight value) :
    0 ≤ map.sum weight := by
  apply Amount.total_nonneg
  intro n member
  rcases List.mem_map.mp member with ⟨value, inside, rfl⟩
  rcases mem_values_iff.mp inside with ⟨key, found⟩
  exact nonneg key value found

/-- With non-negative weights no value outweighs the sum. -/
theorem weight_le_sum {weight : β → Int} {map : SortedMap κ β}
    (nonneg : ∀ key value, map.get? key = some value → 0 ≤ weight value) {key : κ} {value : β}
    (found : map.get? key = some value) : weight value ≤ map.sum weight := by
  apply Amount.le_total
  · intro n member
    rcases List.mem_map.mp member with ⟨v, inside, rfl⟩
    rcases mem_values_iff.mp inside with ⟨k, atKey⟩
    exact nonneg k v atKey
  · exact List.mem_map.mpr ⟨value, mem_values_iff.mpr ⟨key, found⟩, rfl⟩

/-- A map that is not empty answers some lookup. -/
theorem exists_get?_of_ne_empty {map : SortedMap κ β} (inhabited : map ≠ empty) :
    ∃ key value, map.get? key = some value := by
  rcases entriesCase : map.entries with _ | ⟨⟨key, value⟩, rest⟩
  · exact absurd (eq_of_entries entriesCase) inhabited
  · refine ⟨key, value, get?_eq_some_iff.mpr ?_⟩
    rw [entriesCase]
    exact List.mem_cons_self

/-- Restricting a map to some keys hides exactly the other ones. -/
theorem get?_filterKeys (keep : κ → Bool) (map : SortedMap κ β) (key : κ) :
    (map.filterKeys keep).get? key = if keep key then map.get? key else none := by
  have entry : ∀ value, (map.filterKeys keep).get? key = some value ↔
      map.get? key = some value ∧ keep key = true := by
    intro value
    simp only [get?_eq_some_iff, filterKeys, List.mem_filter]
  split
  · next kept =>
      ext value
      simp [entry, kept]
  · next dropped =>
      ext value
      simp [entry, dropped]

variable [DecidableEq κ]

theorem insert_ne_empty (map : SortedMap κ β) (key : κ) (value : β) :
    map.insert key value ≠ empty := by
  intro vanished
  have found := get?_insert_self map key value
  rw [vanished] at found
  cases found

end SortedMap
end TokenOverlay
