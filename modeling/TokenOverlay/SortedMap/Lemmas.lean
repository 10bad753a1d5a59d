import TokenOverlay.SortedMap.Basic

namespace TokenOverlay
namespace SortedMap

/-!
What a lookup answers after each operation on a map, and that a map is
determined by what it answers.
-/

variable {κ β : Type} [Ord κ]

@[simp] theorem get?_empty [Std.TransOrd κ] (key : κ) :
    (empty : SortedMap κ β).get? key = none := rfl

theorem eq_of_entries {left right : SortedMap κ β} (same : left.entries = right.entries) :
    left = right := by
  cases left
  cases right
  cases same
  rfl

theorem lookup_of_lt {key : κ} {entries : List (κ × β)}
    (before : ∀ entry ∈ entries, compare key entry.1 = .lt) : lookup key entries = none := by
  cases entries with
  | nil => rfl
  | cons head rest =>
      rcases head with ⟨k, v⟩
      simp [lookup, before (k, v) (by simp)]

theorem isEmpty_iff [Std.TransOrd κ] {map : SortedMap κ β} : map.isEmpty = true ↔ map = empty := by
  constructor
  · intro h
    exact eq_of_entries (List.isEmpty_iff.mp h)
  · rintro rfl
    rfl

section

/-- A key after all others is put at the end. -/
theorem place_of_gt {key : κ} {value : β} {entries : List (κ × β)}
    (after : ∀ entry ∈ entries, compare key entry.1 = .gt) :
    place key value entries = entries ++ [(key, value)] := by
  induction entries with
  | nil => rfl
  | cons head rest ih =>
      rcases head with ⟨k, v⟩
      have here : compare key k = .gt := after (k, v) List.mem_cons_self
      simp only [place, here]
      rw [ih fun entry member => after entry (List.mem_cons_of_mem (k, v) member)]
      rfl

variable [Std.TransOrd κ]

theorem entries_foldl_insert {later : List (κ × β)} {map : SortedMap κ β}
    (ascending : (map.entries ++ later).Pairwise fun a b => compare a.1 b.1 = .lt) :
    (later.foldl (fun map entry => map.insert entry.1 entry.2) map).entries =
      map.entries ++ later := by
  induction later generalizing map with
  | nil => exact (List.append_nil map.entries).symm
  | cons next rest ih =>
      have after : ∀ entry ∈ map.entries, compare next.1 entry.1 = .gt := by
        intro entry member
        apply Std.OrientedCmp.gt_iff_lt.mpr
        exact (List.pairwise_append.mp ascending).2.2 entry member next List.mem_cons_self
      have longer : (map.insert next.1 next.2).entries = map.entries ++ [next] :=
        place_of_gt after
      have split : ((map.insert next.1 next.2).entries ++ rest).Pairwise
          fun a b => compare a.1 b.1 = .lt := by
        rw [longer, List.append_assoc]
        exact ascending
      rw [List.foldl_cons, ih split, longer, List.append_assoc]
      rfl

/-- A map is the map of its entries. -/
theorem ofList_entries (map : SortedMap κ β) : ofList map.entries = map :=
  eq_of_entries (entries_foldl_insert map.ascending)

end

variable [Std.TransOrd κ] [Std.LawfulEqOrd κ]

/-- Entries are exactly what lookups answer. -/
theorem lookup_eq_some_iff {key : κ} {value : β} {entries : List (κ × β)}
    (ascending : entries.Pairwise (fun a b => compare a.1 b.1 = .lt)) :
    lookup key entries = some value ↔ (key, value) ∈ entries := by
  induction entries with
  | nil => simp [lookup]
  | cons head rest ih =>
      rcases head with ⟨k, v⟩
      rcases List.pairwise_cons.mp ascending with ⟨first, later⟩
      simp only [lookup, List.mem_cons, Prod.mk.injEq]
      split
      · next before =>
          constructor
          · intro h
            cases h
          · rintro (⟨rfl, rfl⟩ | member)
            · simp [Std.ReflOrd.compare_self] at before
            · have after := first _ member
              exact absurd (Std.TransCmp.lt_trans before after) (by simp [Std.ReflOrd.compare_self])
      · next h =>
          have same : key = k := Std.LawfulEqOrd.eq_of_compare h
          subst same
          constructor
          · intro h
            exact Or.inl ⟨rfl, (Option.some.inj h).symm⟩
          · rintro (⟨_, rfl⟩ | member)
            · rfl
            · have after := first _ member
              simp [Std.ReflOrd.compare_self] at after
      · next after =>
          rw [ih later]
          constructor
          · exact Or.inr
          · rintro (⟨rfl, _⟩ | member)
            · simp [Std.ReflOrd.compare_self] at after
            · exact member

theorem get?_eq_some_iff {map : SortedMap κ β} {key : κ} {value : β} :
    map.get? key = some value ↔ (key, value) ∈ map.entries :=
  lookup_eq_some_iff map.ascending

theorem entries_ext {left right : List (κ × β)}
    (ascendingLeft : left.Pairwise (fun a b => compare a.1 b.1 = .lt))
    (ascendingRight : right.Pairwise (fun a b => compare a.1 b.1 = .lt))
    (same : ∀ key, lookup key left = lookup key right) : left = right := by
  induction left generalizing right with
  | nil =>
      cases right with
      | nil => rfl
      | cons head rest =>
          rcases head with ⟨k, v⟩
          have h := same k
          simp [lookup, Std.ReflOrd.compare_self] at h
  | cons head rest ih =>
      rcases head with ⟨k, v⟩
      cases right with
      | nil =>
          have h := same k
          simp [lookup, Std.ReflOrd.compare_self] at h
      | cons head' rest' =>
          rcases head' with ⟨k', v'⟩
          rcases List.pairwise_cons.mp ascendingLeft with ⟨first, later⟩
          rcases List.pairwise_cons.mp ascendingRight with ⟨first', later'⟩
          have keysAgree : compare k k' = .eq := by
            have atLeft := same k
            have atRight := same k'
            simp only [lookup, Std.ReflOrd.compare_self] at atLeft atRight
            cases order : compare k k' with
            | eq => rfl
            | lt => simp [order] at atLeft
            | gt => simp [Std.OrientedCmp.gt_iff_lt.mp order] at atRight
          have same_key : k = k' := Std.LawfulEqOrd.eq_of_compare keysAgree
          subst same_key
          have same_value : v = v' := by
            have h := same k
            simpa [lookup, Std.ReflOrd.compare_self] using h
          subst same_value
          have tails : rest = rest' := by
            apply ih later later'
            intro key
            have h := same key
            simp only [lookup] at h
            cases order : compare key k with
            | gt => simpa [order] using h
            | eq =>
                have : key = k := Std.LawfulEqOrd.eq_of_compare order
                subst this
                rw [lookup_of_lt first, lookup_of_lt first']
            | lt =>
                rw [lookup_of_lt fun entry member =>
                    Std.TransCmp.lt_trans order (first entry member),
                  lookup_of_lt fun entry member =>
                    Std.TransCmp.lt_trans order (first' entry member)]
          rw [tails]

/-- A map is what it answers. -/
theorem ext_get? {left right : SortedMap κ β}
    (same : ∀ key, left.get? key = right.get? key) : left = right :=
  eq_of_entries (entries_ext left.ascending right.ascending same)

variable [DecidableEq κ]

theorem lookup_place (key other : κ) (value : β) (entries : List (κ × β)) :
    lookup other (place key value entries) =
      if other = key then some value else lookup other entries := by
  induction entries with
  | nil =>
      simp only [place, lookup]
      by_cases same : other = key
      · subst same
        simp [Std.ReflOrd.compare_self]
      · have different : compare other key ≠ .eq :=
          fun h => same (Std.LawfulEqOrd.eq_of_compare h)
        split <;> simp_all
  | cons head rest ih =>
      rcases head with ⟨k, v⟩
      simp only [place]
      split
      · next before =>
          by_cases same : other = key
          · subst same
            simp [lookup, Std.ReflOrd.compare_self]
          · rw [if_neg same, lookup]
            have different : compare other key ≠ .eq :=
              fun h => same (Std.LawfulEqOrd.eq_of_compare h)
            split
            · next first => simp [lookup, Std.TransCmp.lt_trans first before]
            · next h => exact absurd h different
            · rfl
      · next h =>
          have same : key = k := Std.LawfulEqOrd.eq_of_compare h
          subst same
          by_cases same : other = key
          · subst same
            simp [lookup, Std.ReflOrd.compare_self]
          · have different : compare other key ≠ .eq :=
              fun h => same (Std.LawfulEqOrd.eq_of_compare h)
            simp only [lookup, if_neg same]
            split <;> simp_all
      · next after =>
          have later : key ≠ k := by
            intro h
            subst h
            simp [Std.ReflOrd.compare_self] at after
          simp only [lookup]
          split
          · next before =>
              have same : other ≠ key := by
                intro h
                subst h
                simp [before] at after
              rw [if_neg same]
          · next h =>
              have same : other ≠ key := by
                intro h'
                subst h'
                exact later (Std.LawfulEqOrd.eq_of_compare h)
              rw [if_neg same]
          · exact ih

theorem lookup_without {key other : κ} {entries : List (κ × β)}
    (ascending : entries.Pairwise (fun a b => compare a.1 b.1 = .lt)) :
    lookup other (without key entries) =
      if other = key then none else lookup other entries := by
  induction entries with
  | nil => simp [without, lookup]
  | cons head rest ih =>
      rcases head with ⟨k, v⟩
      rcases List.pairwise_cons.mp ascending with ⟨first, later⟩
      simp only [without]
      split
      · next before =>
          by_cases same : other = key
          · subst same
            simp [lookup, before]
          · rw [if_neg same]
      · next h =>
          have same : key = k := Std.LawfulEqOrd.eq_of_compare h
          subst same
          by_cases same : other = key
          · subst same
            simp [lookup_of_lt first]
          · have different : compare other key ≠ .eq :=
              fun h => same (Std.LawfulEqOrd.eq_of_compare h)
            rw [if_neg same]
            conv => rhs; rw [lookup]
            split
            · next before =>
                exact lookup_of_lt fun entry member =>
                  Std.TransCmp.lt_trans before (first entry member)
            · next h => exact absurd h different
            · rfl
      · next after =>
          have apart : key ≠ k := by
            intro h
            subst h
            simp [Std.ReflOrd.compare_self] at after
          simp only [lookup]
          split
          · simp
          · next h =>
              have same : other ≠ key := by
                intro h'
                subst h'
                exact apart (Std.LawfulEqOrd.eq_of_compare h)
              rw [if_neg same]
          · exact ih later

/-- Reading after writing. -/
theorem get?_insert (map : SortedMap κ β) (key other : κ) (value : β) :
    (map.insert key value).get? other = if other = key then some value else map.get? other :=
  lookup_place key other value map.entries

theorem get?_erase (map : SortedMap κ β) (key other : κ) :
    (map.erase key).get? other = if other = key then none else map.get? other :=
  lookup_without map.ascending

@[simp] theorem get?_insert_self (map : SortedMap κ β) (key : κ) (value : β) :
    (map.insert key value).get? key = some value := by
  simp [get?_insert]

@[simp] theorem get?_erase_self (map : SortedMap κ β) (key : κ) :
    (map.erase key).get? key = none := by
  simp [get?_erase]

theorem get?_insert_of_ne (map : SortedMap κ β) {key other : κ} (value : β)
    (different : other ≠ key) : (map.insert key value).get? other = map.get? other := by
  simp [get?_insert, different]

theorem get?_erase_of_ne (map : SortedMap κ β) {key other : κ}
    (different : other ≠ key) : (map.erase key).get? other = map.get? other := by
  simp [get?_erase, different]

theorem get?_assign (map : SortedMap κ β) (key other : κ) (value : Option β) :
    (map.assign key value).get? other = if other = key then value else map.get? other := by
  cases value with
  | none => exact get?_erase map key other
  | some value => exact get?_insert map key other value

/-- Writing back what was read before an entry was set restores the map. -/
theorem assign_insert (map : SortedMap κ β) (key : κ) (value : β) :
    (map.insert key value).assign key (map.get? key) = map := by
  apply ext_get?
  intro other
  rw [get?_assign, get?_insert]
  split
  · next same => rw [same]
  · rfl

theorem assign_erase (map : SortedMap κ β) (key : κ) :
    (map.erase key).assign key (map.get? key) = map := by
  apply ext_get?
  intro other
  rw [get?_assign, get?_erase]
  split
  · next same => rw [same]
  · rfl

end SortedMap
end TokenOverlay
