import Mathlib.Data.List.Nodup
import TokenOverlay.Json.Basic
import TokenOverlay.SortedMap.Lemmas

namespace TokenOverlay

/-!
Reading what was written.  The names of a record differ from each other, a
table has one member for each key, and numbers keep to the width of their
field, so every reader finds in a written value what was put there.
-/

/-! ## Numerals -/

namespace Text

theorem toNat_digitChar (n : Nat) : (digitChar n).toNat = 48 + n % 10 := by
  have each : ∀ d < 10, (Char.ofNat (48 + d)).toNat = 48 + d := by decide
  exact each (n % 10) (Nat.mod_lt n (by decide))

theorem digitsValue_concat (chars : List Char) (c : Char) :
    digitsValue (chars ++ [c]) = 10 * digitsValue chars + (c.toNat - 48) := by
  rw [digitsValue, List.foldl_append]
  rfl

theorem digitsValue_digits (n : Nat) : digitsValue (digits n) = n := by
  induction n using digits.induct with
  | case1 n small =>
      rw [digits, if_pos small]
      change 10 * 0 + ((digitChar n).toNat - 48) = n
      rw [toNat_digitChar]
      omega
  | case2 n large ih =>
      rw [digits, if_neg large, digitsValue_concat, ih, toNat_digitChar]
      omega

theorem isDigit_digitChar (n : Nat) : isDigit (digitChar n) = true := by
  have small : n % 10 < 10 := Nat.mod_lt n (by decide)
  unfold isDigit
  rw [toNat_digitChar]
  simp only [Bool.and_eq_true, decide_eq_true_eq]
  omega

theorem isDigit_of_mem_digits {n : Nat} {c : Char} (member : c ∈ digits n) : isDigit c = true := by
  induction n using digits.induct with
  | case1 n small =>
      rw [digits, if_pos small] at member
      rw [List.mem_singleton.mp member]
      exact isDigit_digitChar n
  | case2 n large ih =>
      rw [digits, if_neg large] at member
      rcases List.mem_append.mp member with early | last
      · exact ih early
      · rw [List.mem_singleton.mp last]
        exact isDigit_digitChar n

theorem digits_ne_nil (n : Nat) : digits n ≠ [] := by
  rw [digits]
  by_cases small : n < 10
  · rw [if_pos small]
    exact List.cons_ne_nil _ _
  · rw [if_neg small]
    exact List.append_ne_nil_of_right_ne_nil _ (List.cons_ne_nil _ _)

/-- The numeral of a number is read as the number. -/
theorem readCanonical_digits {bound n : Nat} (below : n < bound) :
    readCanonical bound (digits n) = some n := by
  have row : (digits n).all isDigit = true :=
    List.all_eq_true.mpr fun _ member => isDigit_of_mem_digits member
  have filled : (digits n).isEmpty = false := List.isEmpty_eq_false_iff.mpr (digits_ne_nil n)
  simp [readCanonical, readDigits, row, filled, digitsValue_digits, below]

end Text

namespace Json

variable {α β : Type}

/-! ## Plain values -/

theorem nat?_ofNat {bound n : Nat} (below : n < bound) : nat? bound (.ofNat n) = some n :=
  if_pos below

@[simp] theorem uint8?_ofNat (n : UInt8) : uint8? (.ofNat n.toNat) = some n := by
  rw [uint8?, nat?_ofNat n.toNat_lt, Option.map_some, UInt8.ofNat_toNat]

@[simp] theorem uint16?_ofNat (n : UInt16) : uint16? (.ofNat n.toNat) = some n := by
  rw [uint16?, nat?_ofNat n.toNat_lt, Option.map_some, UInt16.ofNat_toNat]

@[simp] theorem uint32?_ofNat (n : UInt32) : uint32? (.ofNat n.toNat) = some n := by
  rw [uint32?, nat?_ofNat n.toNat_lt, Option.map_some, UInt32.ofNat_toNat]

@[simp] theorem uint64?_ofNat (n : UInt64) : uint64? (.ofNat n.toNat) = some n := by
  rw [uint64?, nat?_ofNat n.toNat_lt, Option.map_some, UInt64.ofNat_toNat]

theorem height?_ofNat {n : Nat} (below : n < UInt32.size) : height? (.ofNat n) = some n :=
  nat?_ofNat below

theorem count?_ofNat {n : Nat} (below : n < UInt64.size) : count? (.ofNat n) = some n :=
  nat?_ofNat below

theorem int64?_integer {n : Int} (fits : Amount.Fits n) : int64? (.integer n) = some n :=
  if_pos fits

@[simp] theorem text?_text (value : String) : text? (.text value) = some value := rfl

@[simp] theorem bool?_bool (value : Bool) : bool? (.bool value) = some value := rfl

theorem natKey?_natText {bound n : Nat} (below : n < bound) :
    natKey? bound (Text.natText n) = some n := by
  rw [natKey?, Text.natText, String.toList_ofList, Text.readCanonical_digits below]

theorem uint16Key?_uint16Key (n : UInt16) : uint16Key? (uint16Key n) = some n := by
  rw [uint16Key?, uint16Key, natKey?_natText n.toNat_lt, Option.map_some, UInt16.ofNat_toNat]

theorem uint32Key?_uint32Key (n : UInt32) : uint32Key? (uint32Key n) = some n := by
  rw [uint32Key?, uint32Key, natKey?_natText n.toNat_lt, Option.map_some, UInt32.ofNat_toNat]

/-! ## Lists and tables -/

/-- What is read item by item is there if every item is. -/
theorem mapM_map_eq_some {γ : Type} {write : α → γ} {read : γ → Option β} {value : α → β}
    {items : List α} (reads : ∀ item ∈ items, read (write item) = some (value item)) :
    (items.map write).mapM read = some (items.map value) := by
  induction items with
  | nil => rfl
  | cons item rest ih =>
      have others := ih fun other member => reads other (List.mem_cons_of_mem item member)
      rw [List.map_cons, List.mapM_cons, reads item List.mem_cons_self, others]
      rfl

theorem list?_ofList {write : α → Json} {read : Json → Option α} {values : List α}
    (reads : ∀ value ∈ values, read (write value) = some value) :
    list? read (ofList write values) = some values :=
  (mapM_map_eq_some reads).trans (congrArg some (List.map_id' values))

section

variable {κ : Type} {writeKey : κ → String} {write : β → Json} {read : Json → Option β}

theorem entries?_map {readKey : String → Option κ} {entries : List (κ × β)}
    (keys : ∀ entry ∈ entries, readKey (writeKey entry.1) = some entry.1)
    (values : ∀ entry ∈ entries, read (write entry.2) = some entry.2) :
    entries? readKey read (entries.map fun entry => (writeKey entry.1, write entry.2)) =
      some entries := by
  refine Eq.trans (mapM_map_eq_some ?_) (congrArg some (List.map_id' entries))
  intro entry member
  simp only [keys entry member, values entry member]
  rfl

variable [Ord κ] [Std.TransOrd κ]

/-- A table with number keys holds what was written. -/
theorem numberTable?_ofTable {readKey : String → Option κ} {map : SortedMap κ β}
    (keys : ∀ entry ∈ map.entries, readKey (writeKey entry.1) = some entry.1)
    (values : ∀ entry ∈ map.entries, read (write entry.2) = some entry.2) :
    numberTable? readKey read (ofTable writeKey write map) = some map := by
  simp only [numberTable?, ofTable, entries?_map keys values, Option.map_some,
    SortedMap.ofList_entries]

/-- A table with text keys holds what was written. -/
theorem table?_ofTable {map : SortedMap String β}
    (values : ∀ entry ∈ map.entries, read (write entry.2) = some entry.2) :
    table? read (ofTable id write map) = some map := by
  have listed : entries? some read (map.entries.map fun entry => (id entry.1, write entry.2)) =
      some map.entries := entries?_map (fun _ _ => rfl) values
  unfold table? ofTable
  simp only [members?, listed, Option.bind_eq_bind, Option.bind_some, SortedMap.ofList_entries,
    Option.pure_def]

end

theorem object_ne_null (members : List (String × Json)) : Json.object members ≠ .null := nofun

/-! ## Fields -/

/-- The members of the fields that are given. -/
def given (fields : List (String × Option Json)) : List (String × Json) :=
  fields.flatMap fun field => field.2.toList.map fun value => (field.1, value)

theorem given_cons (field : String × Option Json) (rest : List (String × Option Json)) :
    given (field :: rest) = (field.2.toList.map fun value => (field.1, value)) ++ given rest :=
  List.flatMap_cons

theorem name_of_mem_given {fields : List (String × Option Json)} {entry : String × Json}
    (member : entry ∈ given fields) : entry.1 ∈ fields.map Prod.fst := by
  rcases List.mem_flatMap.mp member with ⟨field, listed, inside⟩
  rcases List.mem_map.mp inside with ⟨value, _, rfl⟩
  exact List.mem_map_of_mem listed

/-- Of fields whose names differ each is a member at most once. -/
theorem filter_given {fields : List (String × Option Json)}
    (distinct : (fields.map Prod.fst).Nodup) {field : String × Option Json}
    (member : field ∈ fields) :
    ((given fields).filter fun entry => entry.1 = field.1) =
      field.2.toList.map fun value => (field.1, value) := by
  induction fields with
  | nil => cases member
  | cons first rest ih =>
      rcases List.nodup_cons.mp distinct with ⟨new, distinct⟩
      rw [given_cons, List.filter_append]
      rcases List.mem_cons.mp member with rfl | later
      · have others : ((given rest).filter fun entry => entry.1 = field.1) = [] := by
          apply List.filter_eq_nil_iff.mpr
          intro entry listed
          simpa using fun same : entry.1 = field.1 => new (same ▸ name_of_mem_given listed)
        have own : ((field.2.toList.map fun value => (field.1, value)).filter
            fun entry : String × Json => entry.1 = field.1) =
            field.2.toList.map fun value => (field.1, value) := by
          apply List.filter_eq_self.mpr
          intro entry listed
          rcases List.mem_map.mp listed with ⟨value, _, rfl⟩
          exact decide_eq_true rfl
        rw [own, others, List.append_nil]
      · have other : first.1 ≠ field.1 := fun same => new (same ▸ List.mem_map_of_mem later)
        have none : ((first.2.toList.map fun value => (first.1, value)).filter
            fun entry : String × Json => entry.1 = field.1) = [] := by
          apply List.filter_eq_nil_iff.mpr
          intro entry listed
          rcases List.mem_map.mp listed with ⟨value, _, rfl⟩
          simpa using other
        rw [none, List.nil_append, ih distinct later]

/-- Each name is read as what was given for it. -/
theorem fields?_given {fields : List (String × Option Json)}
    (distinct : (fields.map Prod.fst).Nodup) :
    (Json.object (given fields)).fields? (fields.map Prod.fst) =
      some (fields.map Prod.snd) := by
  apply mapM_map_eq_some
  intro field member
  simp only [filter_given distinct member]
  cases field.2 <;> rfl

/-- In an object whose names differ each name has its value. -/
theorem fields?_object {entries : List (String × Json)}
    (distinct : (entries.map Prod.fst).Nodup) :
    (Json.object entries).fields? (entries.map Prod.fst) =
      some (entries.map fun entry => some entry.2) := by
  have all : given (entries.map fun entry => (entry.1, some entry.2)) = entries := by
    induction entries with
    | nil => rfl
    | cons entry rest ih =>
        rw [List.map_cons, given_cons, ih (List.nodup_cons.mp distinct).2]
        rfl
  have names : (entries.map fun entry => (entry.1, some entry.2)).map Prod.fst =
      entries.map Prod.fst := by
    rw [List.map_map]
    rfl
  rw [← names] at distinct
  have read := fields?_given distinct
  rw [all, names, List.map_map] at read
  exact read

/-- A reader that asks for all fields there may be is given what there is of them. -/
theorem bind_given {names : List String} {fields : List (String × Option Json)}
    {next : List (Option Json) → Option α} (named : fields.map Prod.fst = names)
    (distinct : names.Nodup) :
    ((Json.object (given fields)).fields? names >>= next) = next (fields.map Prod.snd) := by
  subst named
  rw [fields?_given distinct]
  rfl

/-- A reader that asks for all names of an object is given all values. -/
theorem bind_fields {names : List String} {entries : List (String × Json)}
    {next : List (Option Json) → Option α} (named : entries.map Prod.fst = names)
    (distinct : names.Nodup) :
    ((Json.object entries).fields? names >>= next) =
      next (entries.map fun entry => some entry.2) := by
  subst named
  rw [fields?_object distinct]
  rfl

@[simp] theorem required?_some (read : Json → Option α) (value : Json) :
    required? read (some value) = read value := rfl

/-- An optional field that is given is read as one that has to be, unless null is written. -/
theorem optional?_ofOption {write : α → Json} {read : Json → Option α} (field : Option α)
    (reads : ∀ value ∈ field, read (write value) = some value)
    (visible : ∀ value, write value ≠ .null) :
    optional? read (some (ofOption write field)) = some field := by
  cases field with
  | none => rfl
  | some value =>
      have written := reads value rfl
      rw [ofOption]
      cases shape : write value with
      | null => exact absurd shape (visible value)
      | _ =>
          rw [shape] at written
          simp only [optional?, written, Option.map_some]

/-- A field that is left out when there is nothing to say is read as nothing. -/
theorem optional?_map {write : α → Json} {read : Json → Option α} (field : Option α)
    (reads : ∀ value ∈ field, read (write value) = some value)
    (visible : ∀ value, write value ≠ .null) :
    optional? read (field.map write) = some field := by
  cases field with
  | none => rfl
  | some value => exact optional?_ofOption (some value) reads visible

/-! ## Variants -/

/-- A record that names its variant first is read as that variant with the other members. -/
theorem variant?_object {tag name : String} {members : List (String × Json)}
    (readable : membersReadable members = true) (different : tag ∉ members.map Prod.fst) :
    (Json.object ((tag, .text name) :: members)).variant? tag = some (name, .object members) := by
  have others : ∀ member ∈ members, member.1 ≠ tag := by
    intro member listed same
    exact different (same ▸ List.mem_map_of_mem listed)
  have none : (members.filter fun member => member.1 = tag) = [] :=
    List.filter_eq_nil_iff.mpr fun member listed => by simpa using others member listed
  have held : (Json.object ((tag, .text name) :: members)).isReadable = true := readable
  rw [variant?, if_pos held]
  simpa [splitVariant?, members?, none] using fun name value => others (name, value)

end Json
end TokenOverlay
