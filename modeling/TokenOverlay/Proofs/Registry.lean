import TokenOverlay.Proofs.SortedMap
import TokenOverlay.Action.Registry

namespace TokenOverlay

/-!
The numbering of the registry.  Every property has a number below the one its
half of the numbers gives out next, so the next number is free and registering
under it can be taken back by removing it again.
-/

namespace Ecosystem

theorem toNat_lastMainId : lastMainId.toNat = 2147483650 := rfl

/-- The half of the numbers that an id lies in; the protocol tokens and the host coin lie in
the lower one. -/
def half (id : PropertyId) : Ecosystem := if id ≤ lastMainId then .main else .test

theorem half_eq_main {id : PropertyId} : half id = .main ↔ id.toNat ≤ 2147483650 := by
  unfold half
  split
  · next low => simpa [toNat_lastMainId] using UInt32.le_iff_toNat_le.mp low
  · next high => simpa [UInt32.le_iff_toNat_le, toNat_lastMainId] using high

theorem half_eq_test {id : PropertyId} : half id = .test ↔ 2147483651 ≤ id.toNat := by
  have main : half id = .main ↔ id.toNat ≤ 2147483650 := half_eq_main
  cases which : half id with
  | main =>
      have low := main.mp which
      constructor
      · intro impossible
        cases impossible
      · intro high
        omega
  | test =>
      have high : ¬ id.toNat ≤ 2147483650 := fun low => by simp [main.mpr low] at which
      constructor
      · intro _
        omega
      · intro _
        rfl

end Ecosystem

namespace Registry

/-- The supply that is registered for a number, none if it is not registered. -/
def supplyOf (r : Registry) (id : PropertyId) : Int :=
  ((r.get? id).map Property.totalTokens).getD 0

theorem exists?_iff_get? {r : Registry} {id : PropertyId} :
    r.exists? id = true ↔ ∃ p, r.get? id = some p :=
  Option.isSome_iff_exists

theorem supplyOf_initial (id : PropertyId) : Registry.initial.supplyOf id = 0 := by
  rw [supplyOf, get?, Registry.initial, SortedMap.get?_insert, SortedMap.get?_insert]
  split
  · rfl
  · split <;> rfl

/-- Every property under its own number, and every number below the next one of its half. -/
structure Numbered (r : Registry) : Prop where
  keyed : ∀ id p, r.get? id = some p → p.id = id
  first : ∀ ecosystem : Ecosystem, ecosystem.firstId.toNat ≤ (r.nextId ecosystem).toNat
  mainLast : (r.nextId .main).toNat ≤ 2147483651
  below : ∀ id p, r.get? id = some p → id.toNat < (r.nextId (Ecosystem.half id)).toNat

/-- The number a property is registered under is the next one of its ecosystem, and the
numbering goes on behind it. -/
def Admits (r : Registry) (p : Property) (next : PropertyId) : Prop :=
  p.id = r.nextId p.ecosystem ∧ followingId p.ecosystem p.id = .ok next

/-- Register a property and move on the numbering. -/
def added (r : Registry) (p : Property) (next : PropertyId) : Registry :=
  { r.withNextId p.ecosystem next with properties := r.properties.insert p.id p }

theorem get?_added (r : Registry) (p : Property) (next id : PropertyId) :
    (r.added p next).get? id = if id = p.id then some p else r.get? id :=
  SortedMap.get?_insert r.properties p.id id p

theorem nextId_added (r : Registry) (p : Property) (next : PropertyId) (ecosystem : Ecosystem) :
    (r.added p next).nextId ecosystem =
      if ecosystem = p.ecosystem then next else r.nextId ecosystem := by
  unfold added withNextId
  cases ecosystem <;> cases p.ecosystem <;> rfl

theorem followingId_ok {ecosystem : Ecosystem} {id next : PropertyId}
    (follows : followingId ecosystem id = .ok next) :
    next.toNat = id.toNat + 1 ∧ (ecosystem = .main → id.toNat ≤ 2147483650) := by
  unfold followingId at follows
  split at follows
  · cases follows
  · next inRange =>
      split at follows
      · next room =>
          cases follows
          constructor
          · rw [UInt32.toNat_add]
            exact Nat.mod_eq_of_lt room
          · intro isMain
            have notAbove : ¬ Ecosystem.lastMainId < id := fun above => inRange ⟨isMain, above⟩
            have bound : ¬ Ecosystem.lastMainId.toNat < id.toNat :=
              fun above => notAbove (UInt32.lt_iff_toNat_lt.mpr above)
            simpa [Ecosystem.toNat_lastMainId] using bound
      · cases follows

namespace Numbered

theorem initial : Numbered Registry.initial where
  keyed := by
    intro id p found
    rw [get?, Registry.initial, SortedMap.get?_insert, SortedMap.get?_insert] at found
    split at found
    · next second =>
        cases found
        exact second.symm
    · split at found
      · next first =>
          cases found
          exact first.symm
      · cases found
  first := by
    intro ecosystem
    cases ecosystem <;> exact Nat.le_refl _
  mainLast := by decide
  below := by
    intro id p found
    rw [get?, Registry.initial, SortedMap.get?_insert, SortedMap.get?_insert] at found
    split at found
    · next second =>
        rw [second]
        decide
    · split at found
      · next first =>
          rw [first]
          decide
      · cases found

variable {r : Registry} {p : Property} {next : PropertyId}

/-- A number that may be given out lies in the half of its ecosystem. -/
theorem half_of_admits (numbered : r.Numbered) (admits : r.Admits p next) :
    Ecosystem.half p.id = p.ecosystem := by
  have start := numbered.first p.ecosystem
  have limit := (followingId_ok admits.2).2
  rw [← admits.1] at start
  cases which : p.ecosystem with
  | main => exact Ecosystem.half_eq_main.mpr (limit which)
  | test =>
      rw [which] at start
      exact Ecosystem.half_eq_test.mpr start

theorem free_of_admits (numbered : r.Numbered) (admits : r.Admits p next) :
    r.get? p.id = none := by
  cases taken : r.get? p.id with
  | none => rfl
  | some old =>
      have bound := numbered.below p.id old taken
      rw [numbered.half_of_admits admits, ← admits.1] at bound
      exact absurd bound (Nat.lt_irrefl _)

theorem added (numbered : r.Numbered) (admits : r.Admits p next) : (r.added p next).Numbered := by
  have follows := followingId_ok admits.2
  have here := numbered.half_of_admits admits
  have advance : ∀ ecosystem, (r.nextId ecosystem).toNat ≤
      ((r.added p next).nextId ecosystem).toNat := by
    intro ecosystem
    rw [nextId_added]
    split
    · next same =>
        rw [same, ← admits.1]
        omega
    · exact Nat.le_refl _
  constructor
  · intro id q found
    rw [get?_added] at found
    split at found
    · next same =>
        cases found
        exact same.symm
    · exact numbered.keyed id q found
  · intro ecosystem
    exact Nat.le_trans (numbered.first ecosystem) (advance ecosystem)
  · rw [nextId_added]
    split
    · next isMain =>
        have bound := follows.2 isMain.symm
        omega
    · exact numbered.mainLast
  · intro id q found
    rw [get?_added] at found
    split at found
    · next same =>
        rw [same, here, nextId_added, if_pos rfl]
        omega
    · exact Nat.lt_of_lt_of_le (numbered.below id q found) (advance _)

end Numbered

/-- Removing what was registered, and going back in the numbering, restores the registry. -/
theorem erase_added {r : Registry} {p : Property} {next : PropertyId}
    (free : r.get? p.id = none) :
    { (r.added p next).withNextId p.ecosystem (r.nextId p.ecosystem) with
        properties := (r.added p next).properties.erase p.id } = r := by
  have restored := SortedMap.assign_insert r.properties p.id p
  rw [get?] at free
  rw [free] at restored
  unfold Registry.added withNextId nextId
  cases p.ecosystem <;> exact congrArg (fun table => Registry.mk table _ _) restored

/-! ## Changing a supply -/

theorem get?_withSupply (r : Registry) (id other : PropertyId) (total : Int) :
    (r.withSupply id total).get? other =
      if other = id then (r.get? id).map fun p => { p with totalTokens := total }
      else r.get? other := by
  unfold withSupply
  cases found : r.get? id with
  | none =>
      by_cases same : other = id
      · simp [same, found]
      · simp [same]
  | some p => simp [get?, SortedMap.get?_insert]

theorem nextId_withSupply (r : Registry) (id : PropertyId) (total : Int) (ecosystem : Ecosystem) :
    (r.withSupply id total).nextId ecosystem = r.nextId ecosystem := by
  unfold withSupply
  cases r.get? id <;> rfl

theorem Numbered.withSupply {r : Registry} (numbered : r.Numbered) (id : PropertyId)
    (total : Int) : (r.withSupply id total).Numbered := by
  have origin : ∀ other q, (r.withSupply id total).get? other = some q →
      ∃ old, r.get? other = some old ∧ q.id = old.id := by
    intro other q found
    rw [get?_withSupply] at found
    split at found
    · next same =>
        rcases Option.map_eq_some_iff.mp found with ⟨old, atId, rfl⟩
        exact ⟨old, same ▸ atId, rfl⟩
    · exact ⟨q, found, rfl⟩
  constructor
  · intro other q found
    rcases origin other q found with ⟨old, before, sameId⟩
    exact sameId.trans (numbered.keyed other old before)
  · intro ecosystem
    rw [nextId_withSupply]
    exact numbered.first ecosystem
  · rw [nextId_withSupply]
    exact numbered.mainLast
  · intro other q found
    rcases origin other q found with ⟨old, before, _⟩
    rw [nextId_withSupply]
    exact numbered.below other old before

/-- Writing back the registered supply takes a change of supply back. -/
theorem withSupply_withSupply (r : Registry) (id : PropertyId) (total : Int) :
    (r.withSupply id total).withSupply id (r.supplyOf id) = r := by
  cases found : r.get? id with
  | none => simp [withSupply, found]
  | some p =>
      have written := get?_withSupply r id id total
      have restored := SortedMap.assign_insert r.properties id { p with totalTokens := total }
      rw [get?] at found
      rw [found] at restored
      rw [if_pos rfl, get?, get?, found] at written
      unfold withSupply supplyOf at *
      simp only [get?, found] at written ⊢
      rw [written]
      apply congrArg (fun table => Registry.mk table r.nextMainId r.nextTestId)
      apply SortedMap.ext_get?
      intro other
      simp only [SortedMap.get?_insert, Option.map_some, Option.getD_some]
      split
      · next same => rw [same, found]
      · rfl

theorem supplyOf_withSupply (r : Registry) (id other : PropertyId) (total : Int) :
    (r.withSupply id total).supplyOf other =
      if other = id ∧ (r.get? id).isSome then total else r.supplyOf other := by
  unfold supplyOf
  rw [get?_withSupply]
  by_cases same : other = id
  · subst same
    cases r.get? other <;> simp
  · simp [same]

end Registry
end TokenOverlay
