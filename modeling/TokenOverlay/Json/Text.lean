import TokenOverlay.Json.Basic
import TokenOverlay.Json.Magnitude
import TokenOverlay.Bytes.Hex

namespace TokenOverlay
namespace Json

/-!
The text form of JSON values.  The reader takes exactly the grammar: no
trailing commas, no leading zeros, no bare control characters, and nothing but
white space after the value.  Unpaired surrogates, numbers too large and deep
nesting are within the grammar, but what has them is unreadable.
-/

def hexDigit (n : Nat) : Char := Char.ofNat (if n < 10 then 48 + n else 87 + n)

def escape (c : Char) : List Char :=
  match c with
  | '"' => ['\\', '"']
  | '\\' => ['\\', '\\']
  | '\n' => ['\\', 'n']
  | '\r' => ['\\', 'r']
  | '\t' => ['\\', 't']
  | c =>
      if c.toNat < 0x20 then
        ['\\', 'u', '0', '0', hexDigit (c.toNat / 16), hexDigit (c.toNat % 16)]
      else [c]

def quote (text : String) : String :=
  "\"" ++ String.ofList (text.toList.flatMap escape) ++ "\""

mutual

def render : Json → String
  | .null => "null"
  | .bool true => "true"
  | .bool false => "false"
  | .integer value => Text.intText value
  | .real literal => literal
  | .text value => quote value
  | .list items => "[" ++ renderItems items ++ "]"
  | .object members => "\x7b" ++ renderMembers members ++ "\x7d"
  | .escaped members => "\x7b" ++ renderMembers members ++ "\x7d"
  | .unreadable => "null"

def renderItems : List Json → String
  | [] => ""
  | [item] => render item
  | item :: next :: rest => render item ++ "," ++ renderItems (next :: rest)

def renderMembers : List (String × Json) → String
  | [] => ""
  | [(name, value)] => quote name ++ ":" ++ render value
  | (name, value) :: next :: rest =>
      quote name ++ ":" ++ render value ++ "," ++ renderMembers (next :: rest)

end

def isSpace (c : Char) : Bool := c = ' ' || c = '\n' || c = '\r' || c = '\t'

def skipSpace (chars : List Char) : List Char := chars.dropWhile isSpace

def hexValue (c : Char) : Option Nat :=
  (Hex.digitValue c.toNat.toUInt8).bind fun digit =>
    if c.toNat < 128 then some digit.toNat else none

/-- The code unit written by four hexadecimal digits. -/
def codeUnit (a b c d : Char) : Option Nat := do
  return 4096 * (← hexValue a) + 256 * (← hexValue b) + 16 * (← hexValue c) + (← hexValue d)

def isHighSurrogate (unit : Nat) : Bool := 0xD800 ≤ unit && unit < 0xDC00
def isLowSurrogate (unit : Nat) : Bool := 0xDC00 ≤ unit && unit < 0xE000

/-- The character of a letter after a backslash. -/
def unescape : Char → Option Char
  | '"' => some '"'
  | '\\' => some '\\'
  | '/' => some '/'
  | 'b' => some (Char.ofNat 8)
  | 'f' => some (Char.ofNat 12)
  | 'n' => some '\n'
  | 'r' => some '\r'
  | 't' => some '\t'
  | _ => none

/-- A string as it is written: its characters and the code units of its escapes, and whether
it is written without escapes. -/
structure Quoted where
  units : List Nat
  plain : Bool
deriving DecidableEq, Repr

namespace Quoted

/-- The text of code units after the characters `read`, which are given last first; a
surrogate has to be half of a pair. -/
def textOf (read : List Char) : List Nat → Option String
  | [] => some (String.ofList read.reverse)
  | [unit] =>
      if isHighSurrogate unit || isLowSurrogate unit then none
      else some (String.ofList (Char.ofNat unit :: read).reverse)
  | unit :: next :: rest =>
      if isHighSurrogate unit then
        if isLowSurrogate next then
          let code := 0x10000 + 1024 * (unit - 0xD800) + (next - 0xDC00)
          textOf (Char.ofNat code :: read) rest
        else none
      else if isLowSurrogate unit then none
      else textOf (Char.ofNat unit :: read) (next :: rest)

/-- What a string stands for, if its surrogates are paired. -/
def text? (q : Quoted) : Option String := textOf [] q.units

def toJson (q : Quoted) : Json :=
  match q.text? with
  | some value => .text value
  | none => .unreadable

end Quoted

/-- Read a string up to its closing quote, after the units `read`, which are given last
first. -/
def readUnits (read : List Nat) (plain : Bool) : List Char → Option (Quoted × List Char)
  | [] => none
  | '"' :: rest => some (⟨read.reverse, plain⟩, rest)
  | '\\' :: 'u' :: a :: b :: c :: d :: rest =>
      (codeUnit a b c d).bind fun unit => readUnits (unit :: read) false rest
  | '\\' :: c :: rest => (unescape c).bind fun c => readUnits (c.toNat :: read) false rest
  | c :: rest => if c.toNat < 0x20 then none else readUnits (c.toNat :: read) plain rest

/-- Read the inside of a string up to its closing quote. -/
def readQuoted (chars : List Char) : Option (Quoted × List Char) := readUnits [] true chars

/-- Read the inside of a string that has to stand for a text. -/
def readString (chars : List Char) : Option (String × List Char) := do
  let (quoted, rest) ← readQuoted chars
  return (← quoted.text?, rest)

/-- Split off a row of digits. -/
def spanDigits (chars : List Char) : List Char × List Char :=
  (chars.takeWhile Text.isDigit, chars.dropWhile Text.isDigit)

/-- The whole part of a number: a single zero, or digits that start with another one. -/
def readWhole (chars : List Char) : Option (List Char × List Char) :=
  match spanDigits chars with
  | ([], _) => none
  | ('0' :: _ :: _, _) => none
  | (whole, rest) => some (whole, rest)

def readFraction : List Char → Option (List Char × List Char)
  | '.' :: rest =>
      match spanDigits rest with
      | ([], _) => none
      | (fraction, rest) => some ('.' :: fraction, rest)
  | rest => some ([], rest)

/-- The exponent of a number: its sign and its digits, which are missing if there is none. -/
def readExponent : List Char → Option ((List Char × List Char) × List Char)
  | e :: rest =>
      if e = 'e' ∨ e = 'E' then
        let (sign, rest) :=
          match rest with
          | '+' :: rest => (['+'], rest)
          | '-' :: rest => (['-'], rest)
          | rest => ([], rest)
        match spanDigits rest with
        | ([], _) => none
        | (power, rest) => some ((e :: sign, power), rest)
      else some (([], []), e :: rest)
  | [] => some (([], []), [])

def readNumber (chars : List Char) : Option (Json × List Char) := do
  let (sign, chars) :=
    match chars with
    | '-' :: rest => (['-'], rest)
    | _ => ([], chars)
  let (whole, rest) ← readWhole chars
  let (fraction, rest) ← readFraction rest
  let ((mark, power), rest) ← readExponent rest
  let exponent : Int := Text.digitsValue power
  if !numeralIsFinite whole (fraction.drop 1)
      (if mark.contains '-' then -exponent else exponent) then
    return (.unreadable, rest)
  if !fraction.isEmpty || !power.isEmpty || (!sign.isEmpty && whole = ['0']) then
    return (.real (String.ofList (sign ++ whole ++ fraction ++ mark ++ power)), rest)
  let value : Int := Text.digitsValue whole
  return (.integer (if sign.isEmpty then value else -value), rest)

/-- How deep values may be nested. -/
def deepest : Nat := 127

/-- The object of some members. -/
def ofMembers (members : List (Quoted × Json)) : Json :=
  match members.mapM fun (name, value) => name.text?.map (·, value) with
  | none => .unreadable
  | some entries => if members.all (·.1.plain) then .object entries else .escaped entries

mutual

/-- Read one value with `room` for so many levels of nesting; the first argument bounds the
number of values read, and the length of the text always suffices. -/
def readValue : Nat → Nat → List Char → Option (Json × List Char)
  | 0, _, _ => none
  | fuel + 1, room, chars =>
      match skipSpace chars with
      | 'n' :: 'u' :: 'l' :: 'l' :: rest => some (.null, rest)
      | 't' :: 'r' :: 'u' :: 'e' :: rest => some (.bool true, rest)
      | 'f' :: 'a' :: 'l' :: 's' :: 'e' :: rest => some (.bool false, rest)
      | '"' :: rest => (readQuoted rest).map fun (quoted, rest) => (quoted.toJson, rest)
      | '[' :: rest => do
          let (items, rest) ←
            match skipSpace rest with
            | ']' :: rest => some ([], rest)
            | rest => readItems fuel (room - 1) rest
          return (if room = 0 then .unreadable else .list items, rest)
      | '\x7b' :: rest => do
          let (members, rest) ←
            match skipSpace rest with
            | '\x7d' :: rest => some ([], rest)
            | rest => readMembers fuel (room - 1) rest
          return (if room = 0 then .unreadable else ofMembers members, rest)
      | chars => readNumber chars

def readItems : Nat → Nat → List Char → Option (List Json × List Char)
  | 0, _, _ => none
  | fuel + 1, room, chars => do
      let (item, rest) ← readValue fuel room chars
      match skipSpace rest with
      | ',' :: rest => do
          let (items, rest) ← readItems fuel room rest
          return (item :: items, rest)
      | ']' :: rest => return ([item], rest)
      | _ => none

def readMembers : Nat → Nat → List Char → Option (List (Quoted × Json) × List Char)
  | 0, _, _ => none
  | fuel + 1, room, chars =>
      match skipSpace chars with
      | '"' :: rest => do
          let (name, rest) ← readQuoted rest
          match skipSpace rest with
          | ':' :: rest => do
              let (value, rest) ← readValue fuel room rest
              match skipSpace rest with
              | ',' :: rest => do
                  let (members, rest) ← readMembers fuel room rest
                  return ((name, value) :: members, rest)
              | '\x7d' :: rest => return ([(name, value)], rest)
              | _ => none
          | _ => none
      | _ => none

end

/-- Read a text that holds one value. -/
def parse (text : String) : Option Json := do
  let chars := text.toList
  let (value, rest) ← readValue (chars.length + 1) deepest chars
  if (skipSpace rest).isEmpty then some value else none

end Json
end TokenOverlay
