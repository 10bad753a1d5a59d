import TokenOverlay.Proofs.Events

namespace TokenOverlay

/-!
Which numbers are given out.  In each half of the numbers they follow each other
without a gap, and the entry that takes an edit back frees the number that the
edit gave out, and no other one.
-/

open Attempt TokenOverlay.Action

/-! ## No gaps -/

namespace Registry

/-- A number is registered if a property is kept under it. -/
theorem exists?_eq (r : Registry) (id : PropertyId) : r.exists? id = (r.get? id).isSome := rfl

@[simp] theorem exists?_withSupply (r : Registry) (id other : PropertyId) (total : Int) :
    (r.withSupply id total).exists? other = r.exists? other := by
  rw [exists?_eq, exists?_eq, get?_withSupply]
  split
  · next same => rw [same, Option.isSome_map]
  · rfl

theorem exists?_added (r : Registry) (p : Property) (next id : PropertyId) :
    (r.added p next).exists? id = true ↔ r.exists? id = true ∨ id = p.id := by
  rw [exists?_eq, exists?_eq, get?_added]
  by_cases same : id = p.id <;> simp [same]

theorem Grown.exists? {r after : Registry} {id : PropertyId} {amount : Int}
    (grown : r.Grown id amount after) (other : PropertyId) :
    after.exists? other = r.exists? other := by
  rw [exists?_eq, exists?_eq, grown other]
  split
  · next same => rw [same, Option.isSome_map]
  · rfl

/-- Every number from the first one of an ecosystem to the last one given out is registered. -/
def Filled (r : Registry) : Prop :=
  ∀ (ecosystem : Ecosystem) (id : PropertyId), ecosystem.firstId ≤ id →
    id < r.nextId ecosystem → r.exists? id = true

namespace Filled

theorem initial : Registry.initial.Filled := by
  intro ecosystem id low high
  cases ecosystem <;> exact absurd high (UInt32.not_lt.mpr low)

variable {r : Registry}

theorem withSupply (filled : r.Filled) (id : PropertyId) (total : Int) :
    (r.withSupply id total).Filled := by
  intro ecosystem other low high
  rw [nextId_withSupply] at high
  rw [exists?_withSupply]
  exact filled ecosystem other low high

theorem added (filled : r.Filled) {p : Property} {next : PropertyId} (admits : r.Admits p next) :
    (r.added p next).Filled := by
  intro ecosystem id low high
  rw [exists?_added]
  rw [nextId_added] at high
  by_cases last : id = p.id
  · exact Or.inr last
  · refine Or.inl (filled ecosystem id low ?_)
    split at high
    · next same =>
        have follows := (followingId_ok admits.2).1
        rw [UInt32.lt_iff_toNat_lt] at high ⊢
        rw [← UInt32.toNat_inj] at last
        rw [same, ← admits.1]
        omega
    · exact high

end Filled

/-- Registered are the two protocol tokens and the numbers below the next one of each half. -/
theorem Numbered.exists?_iff {r : Registry} (numbered : r.Numbered) (orderly : r.Orderly)
    (filled : r.Filled) (id : PropertyId) :
    r.exists? id = true ↔ id = 1 ∨ id = 2 ∨ (3 ≤ id ∧ id < r.nextMainId) ∨
      (2147483651 ≤ id ∧ id < r.nextTestId) := by
  constructor
  · intro registered
    rcases Option.isSome_iff_exists.mp registered with ⟨p, found⟩
    have located := orderly.located id p found
    have below := numbered.below id p found
    have coin : id.toNat ≠ 0 := by
      intro zero
      have host : id = 0 := UInt32.toNat_inj.mp zero
      rw [host] at located
      cases located
    rw [← UInt32.toNat_inj, ← UInt32.toNat_inj, UInt32.le_iff_toNat_le, UInt32.le_iff_toNat_le,
      UInt32.lt_iff_toNat_lt, UInt32.lt_iff_toNat_lt]
    cases half : Ecosystem.half id with
    | main =>
        rw [half] at below
        change id.toNat < r.nextMainId.toNat at below
        simp only [UInt32.reduceToNat]
        omega
    | test =>
        rw [half] at below
        change id.toNat < r.nextTestId.toNat at below
        have high := Ecosystem.half_eq_test.mp half
        simp only [UInt32.reduceToNat]
        omega
  · have token : ∀ ecosystem : Ecosystem, r.exists? ecosystem.protocolToken = true := by
      intro ecosystem
      rcases orderly.protocolToken ecosystem with ⟨p, found, _⟩
      rw [exists?_eq, found]
      rfl
    rintro (rfl | rfl | ⟨low, high⟩ | ⟨low, high⟩)
    · exact token .main
    · exact token .test
    · exact filled .main id low high
    · exact filled .test id low high

/-! ## Issuing -/

/-- An ecosystem has numbers left.  The last number of the main ecosystem is given out, but the
largest number there is is not. -/
def HasRoom (r : Registry) : Ecosystem → Prop
  | .main => r.nextMainId ≤ 2147483650
  | .test => r.nextTestId < 4294967295

instance (r : Registry) : DecidablePred r.HasRoom
  | .main => inferInstanceAs (Decidable (_ ≤ _))
  | .test => inferInstanceAs (Decidable (_ < _))

theorem followingId_isOk_iff (r : Registry) (ecosystem : Ecosystem) :
    (∃ next, followingId ecosystem (r.nextId ecosystem) = .ok next) ↔ r.HasRoom ecosystem := by
  constructor
  · rintro ⟨next, follows⟩
    have bounds := followingId_ok follows
    cases ecosystem with
    | main => exact UInt32.le_iff_toNat_le.mpr (bounds.2 rfl)
    | test =>
        have large := next.toNat_lt_size
        rw [bounds.1] at large
        exact UInt32.lt_iff_toNat_lt.mpr (Nat.lt_of_succ_lt_succ large)
  · intro room
    unfold followingId
    cases ecosystem with
    | main =>
        have low := UInt32.le_iff_toNat_le.mp room
        rw [if_neg fun beyond => UInt32.not_lt.mpr room beyond.2, if_pos]
        · exact ⟨_, rfl⟩
        · exact Nat.lt_of_le_of_lt (Nat.succ_le_succ low) (by decide)
    | test =>
        have low := UInt32.lt_iff_toNat_lt.mp room
        rw [if_neg nofun, if_pos]
        · exact ⟨_, rfl⟩
        · exact Nat.lt_of_le_of_lt (Nat.succ_le_of_lt low) (by decide)

/-- A number that is issued is the next one of its ecosystem, for an amount in range. -/
theorem issue_admits (request : IssueRequest) (journal : Journal) :
    (issue request).Does
      (fun id _ => (0 ≤ request.initialAmount ∧ request.initialAmount ≤ maxTokens) ∧
        ∃ next, journal.state.registry.Admits (request.property id) next) journal := by
  refine .reading (.guard _ _) fun _ checked => .reading .state fun s read => ?_
  have inRange := guard_ok checked
  cases read
  dsimp only
  split
  · trivial
  · next next follows =>
      refine yields_bind.mpr (yields_edit.mpr (yields_ite.mpr ⟨fun _ => ?_, fun _ => ?_⟩))
      · exact Does.ending fun _ _ => ⟨inRange, next, rfl, follows⟩
      · exact ⟨inRange, next, rfl, follows⟩

/-- What is issued comes under a number that was free, in the ecosystem that was asked for, and
leaves the other properties alone. -/
theorem issue_ok {request : IssueRequest} {journal after : Journal} {id : PropertyId}
    (numbered : journal.state.registry.Numbered)
    (run : issue request journal = (.ok id, after)) :
    journal.state.registry.exists? id = false ∧ Ecosystem.of id = some request.ecosystem ∧
      after.state.registry.get? id =
        some { request.property id with totalTokens := request.initialAmount } ∧
      ∀ other, other ≠ id →
        after.state.registry.get? other = journal.state.registry.get? other := by
  rcases (issue_admits request journal).of_ok run with ⟨_, next, admits⟩
  have gains := ((issue_does numbered request).of_ok run).2
  have free : journal.state.registry.exists? id = false := congrArg Option.isSome gains.free
  exact ⟨free, numbered.of_admits admits, gains.registered, gains.others⟩

/-- Whatever is in range is issued as long as its ecosystem has numbers left. -/
theorem issue_isOk_iff {journal : Journal} (sound : journal.state.Sound)
    (trading : journal.state.Trading) (request : IssueRequest) :
    (∃ id after, issue request journal = (.ok id, after)) ↔
      (0 ≤ request.initialAmount ∧ request.initialAmount ≤ maxTokens) ∧
        journal.state.registry.HasRoom request.ecosystem := by
  rw [← followingId_isOk_iff]
  constructor
  · rintro ⟨id, after, run⟩
    rcases (issue_admits request journal).of_ok run with ⟨inRange, next, sameId, follows⟩
    exact ⟨inRange, next, sameId ▸ follows⟩
  · rintro ⟨inRange, next, follows⟩
    have decided := issue_decided sound trading request inRange
    rcases run : issue request journal with ⟨reason | id, after⟩
    · have refused := decided.of_error run
      simp only [checkNumbers, bind_run, Action.state, follows] at refused
      cases refused
    · exact ⟨id, after, rfl⟩

end Registry

/-! ## Entries -/

/-- The number that an edit gives out. -/
def Edit.issued? : Edit → Option PropertyId
  | .register p _ => some p.id
  | _ => none

namespace UndoEntry

/-- The number that is free again once the entry is taken back. -/
def freed? : UndoEntry → Option PropertyId
  | .propertyCreated id _ _ => some id
  | _ => none

def freed (entries : List UndoEntry) : List PropertyId := entries.filterMap freed?

@[simp] theorem freed_nil : freed [] = [] := rfl

theorem mem_freed_cons (entry : UndoEntry) (entries : List UndoEntry) (id : PropertyId) :
    id ∈ freed (entry :: entries) ↔ entry.freed? = some id ∨ id ∈ freed entries := by
  simp [freed]

theorem freed_append (newer older : List UndoEntry) :
    freed (newer ++ older) = freed newer ++ freed older :=
  List.filterMap_append

end UndoEntry

/-- Between two states these numbers have been given out, and no other one; none of them was
taken before, and none that was taken is free now. -/
structure State.Issues (s : State) (ids : List PropertyId) (after : State) : Prop where
  free : ∀ id ∈ ids, s.registry.exists? id = false
  registered : ∀ id, after.registry.exists? id = true ↔
    s.registry.exists? id = true ∨ id ∈ ids

namespace State

variable {s between after : State} {ids earlier later : List PropertyId}

namespace Issues

theorem of_same (same : ∀ id, after.registry.exists? id = s.registry.exists? id) :
    s.Issues [] after where
  free := fun _ impossible => absurd impossible List.not_mem_nil
  registered := by
    intro id
    simp [same id]

theorem trans (first : s.Issues earlier between) (second : between.Issues later after)
    (all : ∀ id, id ∈ ids ↔ id ∈ earlier ∨ id ∈ later) : s.Issues ids after where
  free := by
    intro id member
    rcases (all id).mp member with old | new
    · exact first.free id old
    · have unknown := second.free id new
      rw [← Bool.not_eq_true] at unknown ⊢
      exact fun known => unknown ((first.registered id).mpr (Or.inl known))
  registered := by
    intro id
    rw [second.registered, first.registered, all, or_assoc]

/-- The numbers are determined by the states. -/
theorem mem_iff (issues : s.Issues ids after) (id : PropertyId) :
    id ∈ ids ↔ after.registry.exists? id = true ∧ s.registry.exists? id = false := by
  constructor
  · intro member
    exact ⟨(issues.registered id).mpr (Or.inr member), issues.free id member⟩
  · rintro ⟨now, before⟩
    rcases (issues.registered id).mp now with known | member
    · rw [before] at known
      cases known
    · exact member

end Issues

/-- The entry of an edit frees what the edit gave out. -/
theorem freed?_inverse (s : State) (edit : Edit) : (s.inverse edit).freed? = edit.issued? := by
  cases edit <;> rfl

theorem Canonical.issues {s : State} (canonical : s.Canonical) {edit : Edit}
    (admits : s.Admits edit) : s.Issues edit.issued?.toList (s.apply edit) := by
  cases edit with
  | register p next =>
      constructor
      · intro id member
        rw [List.mem_singleton.mp member, Registry.exists?_eq,
          canonical.registry.free_of_admits admits]
        rfl
      · intro id
        refine (s.registry.exists?_added p next id).trans ?_
        rw [Edit.issued?, Option.toList_some, List.mem_singleton]
  | supply property total =>
      exact .of_same fun id => s.registry.exists?_withSupply property id total
  | _ => exact .of_same fun _ => rfl

theorem exists?_revert (s : State) (entry : UndoEntry) (id : PropertyId) :
    (s.revert entry).registry.exists? id = true ↔
      s.registry.exists? id = true ∧ entry.freed? ≠ some id := by
  cases entry with
  | supply property previous =>
      simp [revert, withRegistry, UndoEntry.freed?]
  | propertyCreated property ecosystem previous =>
      have erased : ((s.revert (.propertyCreated property ecosystem previous)).registry.get? id) =
          if id = property then none else s.registry.get? id :=
        SortedMap.get?_erase s.registry.properties property id
      rw [Registry.exists?_eq, erased, Registry.exists?_eq]
      by_cases same : id = property
      · simp [same, UndoEntry.freed?]
      · simp [same, UndoEntry.freed?, Ne.symm same]
  | _ =>
      simp only [UndoEntry.freed?, ne_eq, reduceCtorEq, not_false_eq_true, and_true]
      rfl

/-- Taking entries back frees the numbers that they name, and no other ones. -/
theorem exists?_revertAll (s : State) (entries : List UndoEntry) (id : PropertyId) :
    (s.revertAll entries).registry.exists? id = true ↔
      s.registry.exists? id = true ∧ id ∉ UndoEntry.freed entries := by
  induction entries generalizing s with
  | nil => simp [revertAll]
  | cons entry rest ih =>
      rw [revertAll_cons, ih, exists?_revert, UndoEntry.mem_freed_cons, not_or, and_assoc]

end State

namespace Journal

variable {s : State} {txid : String} {after : Journal}

/-- The entries of a run name the numbers that it has given out. -/
theorem Extends.issues (run : (start s).Extends after) (formed : s.Canonical) :
    s.Issues (UndoEntry.freed after.entries) after.state := by
  induction run with
  | refl => exact .of_same fun _ => rfl
  | @record between edit earlier admits ih =>
      refine ih.trans ((earlier.canonical formed).issues admits) fun id => ?_
      rw [Journal.record, UndoEntry.mem_freed_cons, State.freed?_inverse, Option.mem_toList,
        or_comm]

theorem Commits.issues (commits : (start s).Commits txid after) (formed : s.Canonical) :
    s.Issues (UndoEntry.freed after.entries) after.state := by
  cases commits with
  | edits run => exact run.issues formed
  | receipt run named =>
      have before := run.issues formed
      exact ⟨before.free, before.registered⟩

theorem Extends.filled {first second : Journal} (run : first.Extends second)
    (filled : first.state.registry.Filled) : second.state.registry.Filled := by
  induction run with
  | refl => exact filled
  | @record between edit earlier admits ih =>
      cases edit with
      | register p next => exact ih.added admits
      | supply property total => exact ih.withSupply property total
      | _ => exact ih

theorem Commits.filled (commits : (start s).Commits txid after) (filled : s.registry.Filled) :
    after.state.registry.Filled := by
  cases commits with
  | edits run => exact run.filled filled
  | receipt run named => exact run.filled filled

end Journal

/-! ## Every engine -/

namespace Engine

theorem genesisState_filled (config : EngineConfig) : (genesisState config).registry.Filled :=
  genesisState_keeps (fun s => s.registry.Filled) .initial (fun _ _ _ _ filled => filled)
    (fun _ property total filled => filled.withSupply property total) config

/-- No number is left out, whatever is accepted. -/
def filling (rules : Rules) : Law rules where
  holds s := s.registry.Filled
  genesis := genesisState_filled rules.config
  prelude := fun block s _ filled => (prelude_extends block s).filled filled
  message := by
    intro tx m s _ filled
    refine (Journal.message_yields rules tx m (.start s)).mono ?_ fun _ _ _ => trivial
    exact fun _ after commits => commits.filled filled
  forget := fun _ _ filled => filled

end Engine

/-- The numbers that are registered in a state that an engine passes through. -/
theorem State.Reached.exists?_iff {rules : Rules} {s : State} (reached : s.Reached rules)
    (id : PropertyId) :
    s.registry.exists? id = true ↔ id = 1 ∨ id = 2 ∨
      (3 ≤ id ∧ id < s.registry.nextMainId) ∨
      (2147483651 ≤ id ∧ id < s.registry.nextTestId) :=
  reached.sound.canonical.registry.exists?_iff reached.trading.registry
    ((Engine.filling rules).of_reached reached).2 id

end TokenOverlay
