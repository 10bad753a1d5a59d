import Mathlib.Algebra.BigOperators.Group.List.Basic
import Mathlib.Algebra.GroupWithZero.Nat
import Mathlib.Data.List.Induction
import Mathlib.Data.String.Basic
import TokenOverlay.Proofs.Utf8
import TokenOverlay.Selection
import TokenOverlay.SortedMap.Lemmas

namespace TokenOverlay
namespace Selection

/-!
Who sends a host transaction.  All that an address puts in counts together, and
the address that puts in most is the sender; of several that put in the same it
is the one whose bytes come first.  So the choice depends only on which
addresses there are and on what each of them puts in, not on the order of the
inputs nor on how an address divides its own.
-/

/-- What an address puts in with all of its inputs, held at the largest number of 64 bits. -/
def contributed (inputs : List (String × UInt64)) (address : String) : Nat :=
  min ((inputs.filter fun input => input.1 = address).map fun input => input.2.toNat).sum
    (UInt64.size - 1)

/-- An address of the inputs that puts in at least as much as each other one, and more than
those whose bytes come before its own. -/
structure Leads (inputs : List (String × UInt64)) (address : String) : Prop where
  listed : address ∈ inputs.map Prod.fst
  most : ∀ other ∈ inputs.map Prod.fst, contributed inputs other ≤ contributed inputs address
  first : ∀ other ∈ inputs.map Prod.fst, Utf8.encode other < Utf8.encode address →
    contributed inputs other < contributed inputs address

variable {inputs others : List (String × UInt64)} {address : String}

/-! ## What addresses put in -/

theorem contributed_lt_size (inputs : List (String × UInt64)) (address : String) :
    contributed inputs address < UInt64.size := by
  have last : UInt64.size - 1 < UInt64.size := by decide
  exact Nat.lt_of_le_of_lt (Nat.min_le_right _ _) last

/-- What is put in by two groups of inputs. -/
theorem contributed_append (inputs others : List (String × UInt64)) (address : String) :
    contributed (inputs ++ others) address =
      min (contributed inputs address + contributed others address) (UInt64.size - 1) := by
  simp only [contributed, List.filter_append, List.map_append, List.sum_append]
  omega

theorem contributed_singleton (input : String × UInt64) (address : String) :
    contributed [input] address = if input.1 = address then input.2.toNat else 0 := by
  have small := input.2.toNat_lt_size
  by_cases own : input.1 = address
  · simp only [contributed, own, decide_true, List.filter_cons_of_pos, List.filter_nil,
      List.map_cons, List.map_nil, List.sum_cons, List.sum_nil, if_true]
    omega
  · simp [contributed, own]

theorem toNat_addValue (a b : UInt64) :
    (addValue a b).toNat = min (a.toNat + b.toNat) (UInt64.size - 1) := by
  apply UInt64.toNat_ofNat_of_lt'
  have last : UInt64.size - 1 < UInt64.size := by decide
  exact Nat.lt_of_le_of_lt (Nat.min_le_right _ _) last

theorem contributions_concat (inputs : List (String × UInt64)) (last : String × UInt64) :
    contributions (inputs ++ [last]) = (contributions inputs).insert last.1
      (addValue (((contributions inputs).get? last.1).getD 0) last.2) :=
  List.foldl_append

/-- The table has what each address puts in, and nothing for the other addresses. -/
theorem toNat_get?_contributions (inputs : List (String × UInt64)) (address : String) :
    (((contributions inputs).get? address).getD 0).toNat = contributed inputs address := by
  induction inputs using List.reverseRecOn with
  | nil => rfl
  | append_singleton inputs last ih =>
      rw [contributions_concat, contributed_append, contributed_singleton, ← ih,
        SortedMap.get?_insert]
      by_cases own : last.1 = address
      · rw [if_pos own.symm, if_pos own, Option.getD_some, toNat_addValue, own]
      · have small := (((contributions inputs).get? address).getD 0).toNat_lt_size
        rw [if_neg (Ne.symm own), if_neg own]
        omega

theorem isSome_get?_contributions (inputs : List (String × UInt64)) (address : String) :
    ((contributions inputs).get? address).isSome = true ↔ address ∈ inputs.map Prod.fst := by
  induction inputs using List.reverseRecOn with
  | nil => simp [contributions]
  | append_singleton inputs last ih =>
      rw [contributions_concat, SortedMap.get?_insert, List.map_append, List.mem_append, ← ih]
      by_cases own : address = last.1 <;> simp [own]

theorem mem_contributions {total : UInt64} :
    (address, total) ∈ (contributions inputs).entries ↔
      address ∈ inputs.map Prod.fst ∧ total.toNat = contributed inputs address := by
  rw [← SortedMap.get?_eq_some_iff, ← isSome_get?_contributions, ← toNat_get?_contributions,
    UInt64.toNat_inj]
  cases (contributions inputs).get? address with
  | none => simp
  | some kept => simp [eq_comm]

/-! ## The largest of them -/

theorem largest_eq_none {entries : List (String × UInt64)} :
    largest entries = none ↔ entries = [] := by
  cases entries with
  | nil => simp [largest]
  | cons entry rest =>
      simp only [largest]
      split
      · simp
      · split <;> simp

/-- No entry has more than the largest one, and those before it have less. -/
theorem largest_eq_some {entries : List (String × UInt64)} {best : String × UInt64}
    (ascending : entries.Pairwise fun a b => a.1 < b.1) (found : largest entries = some best) :
    best ∈ entries ∧
      ∀ entry ∈ entries, entry.2 ≤ best.2 ∧ (entry.1 < best.1 → entry.2 < best.2) := by
  induction entries generalizing best with
  | nil => cases found
  | cons entry rest ih =>
      rw [List.pairwise_cons] at ascending
      simp only [largest] at found
      split at found
      · next none =>
          cases found
          rw [largest_eq_none] at none
          subst none
          refine ⟨List.mem_cons_self, ?_⟩
          rintro other (_ | ⟨_, behind⟩)
          · exact ⟨UInt64.le_refl _, fun before => absurd before (lt_irrefl _)⟩
          · cases behind
      · next later among =>
          rcases ih ascending.2 among with ⟨member, bounds⟩
          split at found
          · next less =>
              cases found
              refine ⟨List.mem_cons_of_mem entry member, ?_⟩
              rintro other (_ | ⟨_, behind⟩)
              · exact ⟨UInt64.le_of_lt less, fun _ => less⟩
              · exact bounds other behind
          · next enough =>
              cases found
              refine ⟨List.mem_cons_self, ?_⟩
              rintro other (_ | ⟨_, behind⟩)
              · exact ⟨UInt64.le_refl _, fun before => absurd before (lt_irrefl _)⟩
              · constructor
                · exact UInt64.le_trans (bounds other behind).1 (UInt64.not_lt.mp enough)
                · exact fun before => absurd before (lt_asymm (ascending.1 other behind))

/-! ## The sender -/

theorem sender_eq_none : sender inputs = none ↔ inputs = [] := by
  rw [sender, Option.map_eq_none_iff, largest_eq_none, List.eq_nil_iff_forall_not_mem,
    List.eq_nil_iff_forall_not_mem]
  constructor
  · intro empty input member
    have listed : input.1 ∈ inputs.map Prod.fst := List.mem_map_of_mem member
    rw [← isSome_get?_contributions, Option.isSome_iff_exists] at listed
    rcases listed with ⟨total, kept⟩
    exact empty (input.1, total) (SortedMap.get?_eq_some_iff.mp kept)
  · intro empty entry member
    have listed := (mem_contributions.mp member).1
    rcases List.mem_map.mp listed with ⟨input, among, _⟩
    exact empty input among

theorem leads_of_sender (chosen : sender inputs = some address) : Leads inputs address := by
  rcases Option.map_eq_some_iff.mp chosen with ⟨best, found, rfl⟩
  have ascending : (contributions inputs).entries.Pairwise fun a b => a.1 < b.1 :=
    (contributions inputs).ascending.imp compareOfLessAndEq_eq_lt.mp
  rcases largest_eq_some ascending found with ⟨member, bounds⟩
  rcases mem_contributions.mp member with ⟨listed, total⟩
  have entryOf : ∀ other ∈ inputs.map Prod.fst, ∃ value : UInt64,
      (other, value) ∈ (contributions inputs).entries ∧
        value.toNat = contributed inputs other := by
    intro other among
    have value := UInt64.toNat_ofNat_of_lt' (contributed_lt_size inputs other)
    exact ⟨_, mem_contributions.mpr ⟨among, value⟩, value⟩
  refine ⟨listed, ?_, ?_⟩
  · intro other among
    rcases entryOf other among with ⟨value, entry, same⟩
    rw [← same, ← total, ← UInt64.le_iff_toNat_le]
    exact (bounds (other, value) entry).1
  · intro other among before
    rcases entryOf other among with ⟨value, entry, same⟩
    rw [← same, ← total, ← UInt64.lt_iff_toNat_lt]
    apply (bounds (other, value) entry).2
    rcases lt_trichotomy other best.1 with less | equal | more
    · exact less
    · exact absurd (equal ▸ before) (List.lt_irrefl _)
    · exact absurd before (List.lt_asymm (Utf8.encode_lt_of_lt more))

/-- Only one address can lead: of two that put in the same the smaller one does. -/
theorem Leads.unique {other : String} (leads : Leads inputs address) (also : Leads inputs other) :
    address = other := by
  rcases lt_trichotomy address other with less | same | more
  · have fewer := also.first address leads.listed (Utf8.encode_lt_of_lt less)
    exact absurd (leads.most other also.listed) (Nat.not_le.mpr fewer)
  · exact same
  · have fewer := leads.first other also.listed (Utf8.encode_lt_of_lt more)
    exact absurd (also.most address leads.listed) (Nat.not_le.mpr fewer)

theorem sender_eq_some : sender inputs = some address ↔ Leads inputs address := by
  constructor
  · exact leads_of_sender
  · intro leads
    cases chosen : sender inputs with
    | none =>
        rw [sender_eq_none] at chosen
        subst chosen
        cases leads.listed
    | some found => exact congrArg some ((leads_of_sender chosen).unique leads)

/-- Inputs with the same addresses that put in the same have the same sender. -/
theorem sender_congr (listed : ∀ a, a ∈ inputs.map Prod.fst ↔ a ∈ others.map Prod.fst)
    (totals : ∀ a, contributed inputs a = contributed others a) :
    sender inputs = sender others := by
  have leads : ∀ a, Leads inputs a ↔ Leads others a := by
    intro a
    constructor
    · rintro ⟨own, most, first⟩
      simp only [listed, totals] at own most first
      exact ⟨own, most, first⟩
    · rintro ⟨own, most, first⟩
      simp only [← listed, ← totals] at own most first
      exact ⟨own, most, first⟩
  apply Option.ext
  intro a
  rw [sender_eq_some, sender_eq_some, leads]

theorem sender_perm (reordered : others.Perm inputs) : sender others = sender inputs := by
  apply sender_congr
  · intro a
    exact (reordered.map Prod.fst).mem_iff
  · intro a
    have values := ((reordered.filter fun input => input.1 = a).map
      fun input : String × UInt64 => input.2.toNat).sum_eq
    rw [contributed, contributed, values]

/-- What an address puts in in several parts, it may put in at once. -/
theorem sender_merge {parts rest : List (String × UInt64)} (filled : parts ≠ [])
    (own : ∀ part ∈ parts, part.1 = address) :
    sender ((address, UInt64.ofNat (contributed parts address)) :: rest) =
      sender (parts ++ rest) := by
  rcases List.exists_mem_of_ne_nil parts filled with ⟨part, member⟩
  have named : address ∈ parts.map Prod.fst := List.mem_map.mpr ⟨part, member, own part member⟩
  have only : ∀ a, a ∈ parts.map Prod.fst → a = address := by
    intro a listed
    rcases List.mem_map.mp listed with ⟨other, among, rfl⟩
    exact own other among
  apply sender_congr
  · intro a
    rw [List.map_cons, List.mem_cons, List.map_append, List.mem_append]
    constructor
    · rintro (rfl | behind)
      · exact Or.inl named
      · exact Or.inr behind
    · rintro (inside | behind)
      · exact Or.inl (only a inside)
      · exact Or.inr behind
  · intro a
    rw [← List.singleton_append, contributed_append, contributed_append, contributed_singleton,
      UInt64.toNat_ofNat_of_lt' (contributed_lt_size parts address)]
    by_cases same : address = a
    · rw [if_pos same, same]
    · have none : parts.filter (fun input => input.1 = a) = [] := by
        rw [List.filter_eq_nil_iff]
        intro other among
        rw [own other among]
        simpa using same
      rw [if_neg same, contributed, contributed, none]
      simp

/-- There is a sender as soon as there is an input, and it is the address that leads: the one
that puts in most, and of several the one whose bytes come first.  The order of the inputs does
not matter, nor in how many parts an address puts in what it does. -/
theorem sender_leads (inputs : List (String × UInt64)) :
    (sender inputs = none ↔ inputs = []) ∧
    (∀ address, sender inputs = some address ↔ Leads inputs address) ∧
    (∀ others, others.Perm inputs → sender others = sender inputs) ∧
    ∀ address parts rest, parts ≠ [] → (∀ part ∈ parts, part.1 = address) →
      (parts ++ rest).Perm inputs →
        sender ((address, UInt64.ofNat (contributed parts address)) :: rest) = sender inputs := by
  refine ⟨sender_eq_none, fun _ => sender_eq_some, fun _ => sender_perm, ?_⟩
  intro address parts rest filled own reordered
  rw [sender_merge filled own, sender_perm reordered]

/-- Two addresses put in as much as can be counted, one of them in two parts. -/
def levelInputs : List (String × UInt64) :=
  [("é", 18446744073709551615), ("z", 18446744073709551615), ("b", 3), ("z", 7)]

/-- The character of one byte comes before the one of two. -/
theorem sender_leads_level :
    sender levelInputs = some "z" ∧ Leads levelInputs "z" ∧
      sender levelInputs.reverse = some "z" ∧
      sender [("z", 18446744073709551615), ("é", 18446744073709551615), ("b", 3)] = some "z" := by
  have chosen : sender levelInputs = some "z" := by decide +kernel
  have leading := sender_leads levelInputs
  refine ⟨chosen, (leading.2.1 "z").mp chosen, ?_, ?_⟩
  · rw [leading.2.2.1 levelInputs.reverse (List.reverse_perm levelInputs), chosen]
  · have merged := leading.2.2.2 "z" [("z", 18446744073709551615), ("z", 7)]
      [("é", 18446744073709551615), ("b", 3)] (by decide) (by decide) (by decide +kernel)
    have once : UInt64.ofNat (contributed [("z", 18446744073709551615), ("z", 7)] "z") =
        18446744073709551615 := by decide +kernel
    rw [once] at merged
    exact merged.trans chosen

end Selection
end TokenOverlay
