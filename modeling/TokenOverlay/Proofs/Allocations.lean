import TokenOverlay.Proofs.Amounts
import TokenOverlay.Settings

namespace TokenOverlay

/-!
Allocation lists as an operator writes them.  The pieces between the commas are
read one by one and in order, and a piece that is not of the form of an
allocation is passed over.  The form has three fields; of a piece with more of
them only the first three are looked at.
-/

namespace Text

variable {chars row rest : List Char}

/-! ## Pieces of a text -/

theorem notMem_of_mem_splitOn {separator : Char} {piece : List Char}
    (member : piece ∈ chars.splitOn separator) : separator ∉ piece := by
  induction chars generalizing piece with
  | nil =>
      rw [List.splitOn_nil, List.mem_singleton] at member
      rw [member]
      exact List.not_mem_nil
  | cons c rest ih =>
      rw [List.splitOn_cons_eq_if_modifyHead] at member
      by_cases same : c = separator
      · rw [if_pos (beq_iff_eq.mpr same)] at member
        rcases List.mem_cons.mp member with rfl | later
        · exact List.not_mem_nil
        · exact ih later
      · rw [if_neg (mt beq_iff_eq.mp same)] at member
        cases pieces : rest.splitOn separator with
        | nil => exact absurd pieces (List.splitOn_ne_nil separator rest)
        | cons first others =>
            rw [pieces] at member ih
            rcases List.mem_cons.mp member with rfl | later
            · rw [List.mem_cons, not_or]
              exact ⟨Ne.symm same, ih List.mem_cons_self⟩
            · exact ih (List.mem_cons_of_mem first later)

theorem trimChars_sublist (chars : List Char) : (trimChars chars).Sublist chars := by
  have front : (trimLeft chars).Sublist chars := List.dropWhile_sublist isBlank
  have back : (trimLeft (trimLeft chars).reverse).Sublist (trimLeft chars).reverse :=
    List.dropWhile_sublist isBlank
  exact (List.reverse_sublist.mp (by rwa [trimChars, List.reverse_reverse])).trans front

/-! ## Numerals with a sign -/

/-- A row of digits, and the number it writes by the places of the digits. -/
structure Row (row : List Char) (n : Nat) : Prop where
  filled : row ≠ []
  digits : ∀ c ∈ row, isDigit c = true
  value : n = Nat.ofDigits 10 (row.reverse.map fun c => c.toNat - 48)

/-- How a number that is not negative is written: a plus sign may stand in front. -/
inductive Unsigned : List Char → Nat → Prop
  | bare {row : List Char} {n : Nat} (digits : Row row n) : Unsigned row n
  | plus {row : List Char} {n : Nat} (digits : Row row n) : Unsigned ('+' :: row) n

inductive Signed : List Char → Int → Prop
  | unsigned {chars : List Char} {n : Nat} (numeral : Unsigned chars n) : Signed chars n
  | minus {row : List Char} {n : Nat} (digits : Row row n) : Signed ('-' :: row) (-n)

theorem readDigits_eq_some {n : Nat} : readDigits row = some n ↔ Row row n := by
  unfold readDigits
  constructor
  · intro read
    split at read
    · next each =>
        simp only [Bool.and_eq_true, Bool.not_eq_true', List.isEmpty_eq_false_iff,
          List.all_eq_true] at each
        exact ⟨each.1, each.2, (Option.some.inj read).symm.trans (digitsValue_eq_ofDigits row)⟩
    · cases read
  · rintro ⟨filled, digits, rfl⟩
    have each : (!row.isEmpty && row.all isDigit) = true := by
      simpa only [Bool.and_eq_true, Bool.not_eq_true', List.isEmpty_eq_false_iff,
        List.all_eq_true] using And.intro filled digits
    rw [if_pos each, digitsValue_eq_ofDigits]

theorem Row.first {c : Char} {n : Nat} (row : Row (c :: rest) n) : isDigit c = true :=
  row.digits c List.mem_cons_self

theorem readNat_eq_some {bound n : Nat} :
    readNat bound chars = some n ↔ Unsigned chars n ∧ n < bound := by
  have bounded : ∀ row : List Char,
      ((readDigits row).bind fun m => if m < bound then some m else none) = some n ↔
        Row row n ∧ n < bound := by
    intro row
    simp only [Option.bind_eq_some_iff, readDigits_eq_some, Option.ite_none_right_eq_some,
      Option.some.injEq]
    constructor
    · rintro ⟨m, digits, below, rfl⟩
      exact ⟨digits, below⟩
    · rintro ⟨digits, below⟩
      exact ⟨n, digits, below, rfl⟩
  unfold readNat
  split
  · next row =>
      rw [bounded]
      refine and_congr_left fun _ => ⟨.plus, ?_⟩
      rintro (digits | digits)
      · exact absurd digits.first (by decide)
      · exact digits
  · next unmarked =>
      rw [bounded]
      refine and_congr_left fun _ => ⟨.bare, ?_⟩
      rintro (digits | digits)
      · exact digits
      · exact absurd rfl (unmarked _)

theorem readInt_eq_some {lowest highest n : Int} :
    readInt lowest highest chars = some n ↔ Signed chars n ∧ lowest ≤ n ∧ n ≤ highest := by
  have bounded : ∀ (row : List Char) (sign : Nat → Int),
      (((readDigits row).map sign).bind fun m =>
          if lowest ≤ m ∧ m ≤ highest then some m else none) = some n ↔
        (∃ m, Row row m ∧ sign m = n) ∧ lowest ≤ n ∧ n ≤ highest := by
    intro row sign
    simp only [Option.bind_eq_some_iff, Option.map_eq_some_iff, readDigits_eq_some,
      Option.ite_none_right_eq_some, Option.some.injEq]
    constructor
    · rintro ⟨m, digits, within, rfl⟩
      exact ⟨digits, within⟩
    · rintro ⟨digits, within⟩
      exact ⟨n, digits, within, rfl⟩
  unfold readInt
  dsimp only
  split
  · next row =>
      rw [bounded]
      refine and_congr_left fun _ => ⟨?_, ?_⟩
      · rintro ⟨m, digits, rfl⟩
        exact .unsigned (.plus digits)
      · rintro ((digits | digits) | _)
        · exact absurd digits.first (by decide)
        · exact ⟨_, digits, rfl⟩
  · next row =>
      rw [bounded]
      refine and_congr_left fun _ => ⟨?_, ?_⟩
      · rintro ⟨m, digits, rfl⟩
        exact .minus digits
      · rintro ((digits | _) | digits)
        · exact absurd digits.first (by decide)
        · exact ⟨_, digits, rfl⟩
  · next plusless minusless =>
      rw [bounded]
      refine and_congr_left fun _ => ⟨?_, ?_⟩
      · rintro ⟨m, digits, rfl⟩
        exact .unsigned (.bare digits)
      · rintro ((digits | digits) | digits)
        · exact ⟨_, digits, rfl⟩
        · exact absurd rfl (plusless _)
        · exact absurd rfl (minusless _)

/-- The characters of a numeral are digits, but for a sign. -/
theorem Unsigned.isDigit_or_plus {n : Nat} (numeral : Unsigned chars n) {c : Char}
    (member : c ∈ chars) : isDigit c = true ∨ c = '+' := by
  cases numeral with
  | bare row => exact .inl (row.digits c member)
  | plus row =>
      rcases List.mem_cons.mp member with sign | later
      · exact .inr sign
      · exact .inl (row.digits c later)

theorem Unsigned.colon_notMem {n : Nat} (numeral : Unsigned chars n) : ':' ∉ chars := by
  intro member
  rcases numeral.isDigit_or_plus member with digit | plus
  · exact absurd digit (by decide)
  · exact absurd plus (by decide)

theorem Signed.colon_notMem {n : Int} (numeral : Signed chars n) : ':' ∉ chars := by
  cases numeral with
  | unsigned numeral => exact numeral.colon_notMem
  | minus row =>
      intro member
      rcases List.mem_cons.mp member with sign | later
      · exact absurd sign (by decide)
      · exact absurd (row.digits ':' later) (by decide)

end Text

namespace Allocation

/-- An entry of three fields between colons: an address, the number of a property, and a positive
amount. -/
inductive Written : List Char → Allocation → Prop
  | fields {address property amount : List Char} {id : PropertyId} {n : Int}
      (named : address ≠ []) (whole : ':' ∉ address)
      (numbered : Text.Unsigned property id.toNat) (counted : Text.Signed amount n)
      (positive : 0 < n) (fits : n ≤ maxTokens) :
      Written (address ++ ':' :: (property ++ ':' :: amount)) ⟨String.ofList address, id, n⟩

/-- An entry that starts with three such fields; what follows a third colon is surplus. -/
inductive Opened : List Char → Allocation → Prop
  | whole {entry : List Char} {a : Allocation} (written : Written entry a) : Opened entry a
  | surplus {entry : List Char} {a : Allocation} (written : Written entry a)
      (rest : List Char) : Opened (entry ++ ':' :: rest) a

/-- The allocations that some entries make, in order: one for each entry of the form, and none
for any other. -/
inductive Lists (form : List Char → Allocation → Prop) : List (List Char) → List Allocation → Prop
  | nil : Lists form [] []
  | taken {entry : List Char} {a : Allocation} {entries : List (List Char)}
      {allocations : List Allocation} (formed : form entry a)
      (rest : Lists form entries allocations) : Lists form (entry :: entries) (a :: allocations)
  | skipped {entry : List Char} {entries : List (List Char)} {allocations : List Allocation}
      (unformed : ∀ a, ¬ form entry a) (rest : Lists form entries allocations) :
      Lists form (entry :: entries) allocations

variable {entry : List Char} {a : Allocation}

theorem Written.count_colon (written : Written entry a) : entry.count ':' = 2 := by
  cases written with
  | fields named whole numbered counted positive fits =>
      simp [List.count_eq_zero.mpr whole, List.count_eq_zero.mpr numbered.colon_notMem,
        List.count_eq_zero.mpr counted.colon_notMem]

/-- An entry without a third colon is of the form if it starts with the form. -/
theorem Opened.written (opened : Opened entry a) (few : entry.count ':' ≤ 2) :
    Written entry a := by
  cases opened with
  | whole written => exact written
  | surplus written rest =>
      rw [List.count_append, written.count_colon, List.count_cons_self] at few
      omega

namespace Lists

variable {form other : List Char → Allocation → Prop} {entries : List (List Char)}
  {allocations : List Allocation}

/-- What a reader of the form makes of entries, one by one. -/
theorem filterMap {read : List Char → Option Allocation}
    (reads : ∀ entry a, read entry = some a ↔ form entry a) (entries : List (List Char)) :
    Lists form entries (entries.filterMap read) := by
  induction entries with
  | nil => exact .nil
  | cons entry rest ih =>
      cases outcome : read entry with
      | none =>
          rw [List.filterMap_cons_none outcome]
          refine .skipped (fun a formed => ?_) ih
          rw [(reads entry a).mpr formed] at outcome
          cases outcome
      | some a =>
          rw [List.filterMap_cons_some outcome]
          exact .taken ((reads entry a).mp outcome) ih

/-- Forms that the entries do not tell apart list the same. -/
theorem congr (lists : Lists form entries allocations)
    (same : ∀ entry ∈ entries, ∀ a, form entry a ↔ other entry a) :
    Lists other entries allocations := by
  induction lists with
  | nil => exact .nil
  | @taken entry a entries allocations formed rest ih =>
      have here := same entry List.mem_cons_self
      have later := fun next member => same next (List.mem_cons_of_mem entry member)
      exact .taken ((here a).mp formed) (ih later)
  | @skipped entry entries allocations unformed rest ih =>
      have here := same entry List.mem_cons_self
      have later := fun next member => same next (List.mem_cons_of_mem entry member)
      exact .skipped (fun a formed => unformed a ((here a).mpr formed)) (ih later)

end Lists
end Allocation

namespace Settings

open Allocation (Written Opened Lists)

variable {entry : List Char} {a : Allocation}

/-- The three fields of an entry are read from its pieces between the colons. -/
theorem readAllocation_of_pieces {address property amount : List Char}
    {more : List (List Char)} (pieces : entry.splitOn ':' = address :: property :: amount :: more) :
    readAllocation entry = some a ↔
      address ≠ [] ∧ a.address = String.ofList address ∧ Text.Unsigned property a.property.toNat ∧
        Text.Signed amount a.amount ∧ 0 < a.amount ∧ a.amount ≤ maxTokens := by
  unfold readAllocation
  rw [Text.splitAt_eq_splitOn, pieces]
  simp only [Option.bind_eq_bind, Option.bind_eq_some_iff, Text.readNat_eq_some,
    Text.readInt_eq_some]
  constructor
  · rintro ⟨id, ⟨numbered, below⟩, n, ⟨counted, _, fits⟩, result⟩
    split at result
    · cases result
    · next accepted =>
        rw [List.isEmpty_iff, not_or, Int.not_le] at accepted
        cases result
        rw [UInt32.toNat_ofNat_of_lt' below]
        exact ⟨accepted.1, rfl, numbered, counted, accepted.2, fits⟩
  · rintro ⟨named, same, numbered, counted, positive, fits⟩
    have least : Amount.least ≤ a.amount := by
      unfold Amount.least
      omega
    have accepted : ¬ (address.isEmpty = true ∨ a.amount ≤ 0) := by
      rw [List.isEmpty_iff, not_or, Int.not_le]
      exact ⟨named, positive⟩
    refine ⟨_, ⟨numbered, a.property.toNat_lt⟩, _, ⟨counted, least, fits⟩, ?_⟩
    rw [if_neg accepted, UInt32.ofNat_toNat, ← same]

/-- An entry of the form falls into its three fields, and what is behind it into further ones. -/
theorem splitOn_of_written (written : Written entry a) :
    ∃ address property amount, entry.splitOn ':' = [address, property, amount] ∧
      (∀ rest, (entry ++ ':' :: rest).splitOn ':' =
        address :: property :: amount :: rest.splitOn ':') ∧
      address ≠ [] ∧ a.address = String.ofList address ∧ Text.Unsigned property a.property.toNat ∧
        Text.Signed amount a.amount ∧ 0 < a.amount ∧ a.amount ≤ maxTokens := by
  cases written with
  | @fields address property amount id n named whole numbered counted positive fits =>
      refine ⟨address, property, amount, ?_, fun rest => ?_, named, rfl, numbered, counted,
        positive, fits⟩
      · rw [List.splitOn_append_cons_self_of_not_mem whole,
          List.splitOn_append_cons_self_of_not_mem numbered.colon_notMem,
          List.splitOn_eq_singleton counted.colon_notMem]
      · simp only [List.append_assoc, List.cons_append]
        rw [List.splitOn_append_cons_self_of_not_mem whole,
          List.splitOn_append_cons_self_of_not_mem numbered.colon_notMem,
          List.splitOn_append_cons_self_of_not_mem counted.colon_notMem]

/-- An entry is read as an allocation if it starts with three fields of its form. -/
theorem readAllocation_eq_some : readAllocation entry = some a ↔ Opened entry a := by
  constructor
  · intro read
    have joined : [':'].intercalate (entry.splitOn ':') = entry := List.intercalate_splitOn ':'
    rcases pieces : entry.splitOn ':' with _ | ⟨address, _ | ⟨property, _ | ⟨amount, more⟩⟩⟩
    · exact absurd pieces (List.splitOn_ne_nil ':' entry)
    · rw [readAllocation, Text.splitAt_eq_splitOn, pieces] at read
      cases read
    · rw [readAllocation, Text.splitAt_eq_splitOn, pieces] at read
      cases read
    · have whole : ':' ∉ address := Text.notMem_of_mem_splitOn (pieces ▸ List.mem_cons_self)
      rw [readAllocation_of_pieces pieces] at read
      obtain ⟨named, same, numbered, counted, positive, fits⟩ := read
      have written : Written _ ⟨String.ofList address, a.property, a.amount⟩ :=
        .fields named whole numbered counted positive fits
      rw [← same] at written
      rw [pieces] at joined
      cases more with
      | nil =>
          simp only [List.intercalate_cons_cons, List.intercalate_singleton, List.append_assoc,
            List.singleton_append] at joined
          exact joined ▸ .whole written
      | cons surplus others =>
          have opened := Opened.surplus written ([':'].intercalate (surplus :: others))
          simp only [List.intercalate_cons_cons, List.append_assoc, List.singleton_append]
            at joined
          simp only [List.append_assoc, List.cons_append] at opened
          exact joined ▸ opened
  · intro opened
    cases opened with
    | whole written =>
        obtain ⟨address, property, amount, pieces, _, fields⟩ := splitOn_of_written written
        exact (readAllocation_of_pieces pieces).mpr fields
    | surplus written rest =>
        obtain ⟨address, property, amount, _, pieces, fields⟩ := splitOn_of_written written
        exact (readAllocation_of_pieces (pieces rest)).mpr fields

/-- Empty entries are no allocations, so leaving them out first makes no difference. -/
theorem readAllocations_eq (text : String) :
    readAllocations text =
      ((text.toList.splitOn ',').map Text.trimChars).filterMap readAllocation := by
  have empty : readAllocation [] = none := rfl
  rw [readAllocations, Text.listEntries, Text.splitAt_eq_splitOn, List.filterMap_filter]
  apply List.filterMap_congr
  intro entry _
  cases entry with
  | nil => exact empty.symm
  | cons c rest => rfl

/-- The entries of an allocation list are its pieces between commas, trimmed.  Those that start
with an address, a property and a positive amount between colons are read in order, and all
others are skipped.  Where no entry has a third colon, the entries that are read are those of
just three fields. -/
theorem readAllocations_lists (text : String) :
    ∃ pieces : List (List Char), pieces ≠ [] ∧ (∀ piece ∈ pieces, ',' ∉ piece) ∧
      [','].intercalate pieces = text.toList ∧
      Lists Opened (pieces.map Text.trimChars) (readAllocations text) ∧
      ((∀ piece ∈ pieces, piece.count ':' ≤ 2) →
        Lists Written (pieces.map Text.trimChars) (readAllocations text)) := by
  have lists : Lists Opened ((text.toList.splitOn ',').map Text.trimChars)
      (readAllocations text) := by
    rw [readAllocations_eq]
    exact Lists.filterMap (fun _ _ => readAllocation_eq_some) _
  refine ⟨text.toList.splitOn ',', List.splitOn_ne_nil _ _,
    fun piece member => Text.notMem_of_mem_splitOn member, List.intercalate_splitOn ',', lists,
    fun few => lists.congr ?_⟩
  intro entry member a
  obtain ⟨piece, listed, rfl⟩ := List.mem_map.mp member
  have colons := ((Text.trimChars_sublist piece).count_le ':').trans (few piece listed)
  exact ⟨fun opened => opened.written colons, .whole⟩

/-- So it is not true that only entries of three fields are read. -/
theorem not_lists_written :
    ¬ ∀ text : String, ∃ pieces : List (List Char), pieces ≠ [] ∧
      (∀ piece ∈ pieces, ',' ∉ piece) ∧ [','].intercalate pieces = text.toList ∧
      Lists Written (pieces.map Text.trimChars) (readAllocations text) := by
  intro listed
  obtain ⟨pieces, some, whole, joined, lists⟩ := listed "alice:1:500:9"
  have single := List.splitOn_intercalate ',' whole some
  have split : "alice:1:500:9".toList.splitOn ',' = ["alice:1:500:9".toList] :=
    List.splitOn_eq_singleton (by decide)
  have trimmed : Text.trimChars "alice:1:500:9".toList = "alice:1:500:9".toList := by decide
  have read : readAllocations "alice:1:500:9" = [⟨"alice", 1, 500⟩] := by decide +kernel
  rw [joined, split] at single
  subst single
  rw [List.map_singleton, trimmed, read] at lists
  cases lists with
  | taken written rest =>
      have colons : "alice:1:500:9".toList.count ':' = 3 := by decide
      rw [written.count_colon] at colons
      cases colons
  | skipped unformed rest => cases rest

end Settings
end TokenOverlay
