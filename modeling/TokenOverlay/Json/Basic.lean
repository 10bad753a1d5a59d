import TokenOverlay.Amount
import TokenOverlay.SortedMap.Basic

namespace TokenOverlay

/-!
JSON values and how the records of the protocol are written in and read from
them.  Numbers are integers of any size; a number with a fraction or an
exponent is kept as its literal, which no record accepts.

A record is read from an object by name, where members it does not know are
skipped and a member it knows may occur only once, or from a list by position.
What is skipped only has to keep to the grammar, so a text may hold values that
nobody can read, and be read all the same.
-/

inductive Json where
  | null
  | bool (value : Bool)
  | integer (value : Int)
  | real (literal : String)
  | text (value : String)
  | list (items : List Json)
  | object (members : List (String × Json))
  /-- An object with a name that is written with escapes, so that not all of its names can be
  taken for numerals. -/
  | escaped (members : List (String × Json))
  /-- What keeps to the grammar and stands for no value: a text with an unpaired surrogate, a
  number too large, or a value nested too deep. -/
  | unreadable
deriving Repr, BEq, Inhabited

namespace Json

def ofNat (n : Nat) : Json := .integer n

/-- A missing value is written as null. -/
def ofOption (write : α → Json) : Option α → Json
  | none => .null
  | some value => write value

def ofList (write : α → Json) (values : List α) : Json := .list (values.map write)

def members? : Json → Option (List (String × Json))
  | .object members => some members
  | .escaped members => some members
  | _ => none

/-- The member of a name; of several with one name the last one counts. -/
def member? (name : String) (j : Json) : Option Json := do
  let members ← j.members?
  (members.reverse.find? fun entry => entry.1 = name).map Prod.snd

mutual

/-- Whether a value and all values in it can be read. -/
def isReadable : Json → Bool
  | .unreadable => false
  | .list items => allReadable items
  | .object members => membersReadable members
  | .escaped members => membersReadable members
  | _ => true

def allReadable : List Json → Bool
  | [] => true
  | item :: rest => item.isReadable && allReadable rest

def membersReadable : List (String × Json) → Bool
  | [] => true
  | (_, value) :: rest => value.isReadable && membersReadable rest

end

def text? : Json → Option String
  | .text value => some value
  | _ => none

def bool? : Json → Option Bool
  | .bool value => some value
  | _ => none

def list? (read : Json → Option α) : Json → Option (List α)
  | .list items => items.mapM read
  | _ => none

def int? : Json → Option Int
  | .integer value => some value
  | _ => none

/-- A natural number below a bound. -/
def nat? (bound : Nat) : Json → Option Nat
  | .integer (.ofNat n) => if n < bound then some n else none
  | _ => none

/-- A signed number of 64 bits. -/
def int64? : Json → Option Int
  | .integer n => if Amount.Fits n then some n else none
  | _ => none

def uint8? (j : Json) : Option UInt8 := (j.nat? UInt8.size).map UInt8.ofNat
def uint16? (j : Json) : Option UInt16 := (j.nat? UInt16.size).map UInt16.ofNat
def uint32? (j : Json) : Option UInt32 := (j.nat? UInt32.size).map UInt32.ofNat
def uint64? (j : Json) : Option UInt64 := (j.nat? UInt64.size).map UInt64.ofNat

/-- A block height, an ordinal or a count of blocks. -/
def height? (j : Json) : Option Nat := j.nat? UInt32.size

def count? (j : Json) : Option Nat := j.nat? UInt64.size

/-- The values of a record's fields in the order of their names; a field that is not
given is `none`. -/
def fields? (names : List String) (j : Json) : Option (List (Option Json)) :=
  match j with
  | .list items => if items.length = names.length then some (items.map some) else none
  | _ => do
      let members ← j.members?
      names.mapM fun name =>
        match members.filter (fun entry => entry.1 = name) with
        | [] => some none
        | [entry] => some (some entry.2)
        | _ => none

def required? (read : Json → Option α) (field : Option Json) : Option α := field.bind read

/-- A field that may be left out or be null. -/
def optional? (read : Json → Option α) : Option Json → Option (Option α)
  | none => some none
  | some .null => some none
  | some value => (read value).map some

/-- The variant of a record and the rest of it, where the variant is named in one of its
members, or in the first place of a list. -/
def splitVariant? (tag : String) (j : Json) : Option (String × Json) :=
  match j with
  | .list (.text name :: items) => some (name, .list items)
  | _ => do
      let members ← j.members?
      match members.filter (fun entry => entry.1 = tag) with
      | [(_, .text name)] => some (name, .object (members.filter fun entry => entry.1 ≠ tag))
      | _ => none

/-- A record that names its variant.  All of it has to be held until the variant is known, so
unlike in other records nothing in it may be unreadable. -/
def variant? (tag : String) (j : Json) : Option (String × Json) :=
  if j.isReadable then j.splitVariant? tag else none

/-- A variant without fields is its name, or an object with that name and null. -/
def plainVariant? (j : Json) : Option String :=
  match j with
  | .text name => some name
  | _ =>
      match j.members? with
      | some [(name, .null)] => some name
      | _ => none

/-- A variant without fields, inside a record that was held: there an object without members
will do for null. -/
def heldVariant? (j : Json) : Option String :=
  match j.members? with
  | some [(name, .object [])] => some name
  | _ => j.plainVariant?

/-- The entries of a table in the order they are written in. -/
def entries? {κ β : Type} (readKey : String → Option κ) (read : Json → Option β)
    (members : List (String × Json)) : Option (List (κ × β)) :=
  members.mapM fun (name, value) => do return (← readKey name, ← read value)

/-- A table is an object whose member names are the keys; of several members with one key
the last one counts. -/
def table? (read : Json → Option β) (j : Json) : Option (SortedMap String β) := do
  return SortedMap.ofList (← entries? some read (← j.members?))

/-- A table whose keys are numerals, which have to be written without escapes. -/
def numberTable? [Ord κ] [Std.TransOrd κ] (readKey : String → Option κ)
    (read : Json → Option β) : Json → Option (SortedMap κ β)
  | .object members => (entries? readKey read members).map SortedMap.ofList
  | _ => none

def ofTable [Ord κ] (writeKey : κ → String) (write : β → Json) (map : SortedMap κ β) : Json :=
  .object (map.entries.map fun entry => (writeKey entry.1, write entry.2))

/-- Number keys are canonical numerals. -/
def natKey? (bound : Nat) (name : String) : Option Nat := Text.readCanonical bound name.toList
def uint16Key? (name : String) : Option UInt16 := (natKey? UInt16.size name).map UInt16.ofNat
def uint32Key? (name : String) : Option UInt32 := (natKey? UInt32.size name).map UInt32.ofNat

def uint16Key (n : UInt16) : String := Text.natText n.toNat
def uint32Key (n : UInt32) : String := Text.natText n.toNat

end Json
end TokenOverlay
