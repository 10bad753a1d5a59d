import TokenOverlay.Text.Blank
import TokenOverlay.Text.Utf8
import TokenOverlay.Bytes.Hex

namespace TokenOverlay

/-!
The target of a request: a path of segments and the parameters of a query.
Routes are matched against the segments as they are written; what a segment
stands for is known after its escapes are undone.

A target may name a scheme and a host before the path, which do not matter.
What has neither those nor a slash in front names a host alone, and no path.
-/

/-- A request target, taken apart. -/
structure Target where
  segments : List (List Char)
  query : List Char
deriving DecidableEq, Repr

namespace Target

/-- The part before the first of a character, and the part after it. -/
def cut (separator : Char) (chars : List Char) : List Char × List Char :=
  (chars.takeWhile (· ≠ separator), (chars.dropWhile (· ≠ separator)).drop 1)

def isSchemeChar (c : Char) : Bool :=
  c.isAlphanum || c = '+' || c = '-' || c = '.'

def endsHost (c : Char) : Bool := c = '/' || c = '?' || c = '#'

/-- The path and what follows it, after a scheme and a host if there are any. -/
def pathOn? (chars : List Char) : Option (List Char) :=
  match chars with
  | '/' :: _ => some chars
  | _ =>
      match chars.dropWhile isSchemeChar with
      | ':' :: '/' :: '/' :: rest => some (rest.dropWhile (!endsHost ·))
      | _ => none

/-- The segments of a path; an empty path is that of the root. -/
def segmentsOf (path : List Char) : List (List Char) := Text.splitAt '/' (path.drop 1)

/-- Take a target apart; a fragment is not part of it. -/
def ofText (text : String) : Target :=
  match pathOn? text.toList with
  | none => ⟨[], []⟩
  | some chars =>
      let (path, query) := cut '?' (cut '#' chars).1
      ⟨segmentsOf path, query⟩

/-- The value of a hexadecimal digit. -/
def digitOf (c : Char) : Option UInt8 :=
  if c.toNat < 128 then Hex.digitValue c.toNat.toUInt8 else none

/-- Undo the escapes; a percent sign without two digits stands for itself. -/
def unescape : List Char → Bytes
  | '%' :: a :: b :: rest =>
      match digitOf a, digitOf b with
      | some high, some low => (16 * high + low) :: unescape rest
      | _, _ => 37 :: unescape (a :: b :: rest)
  | c :: rest => String.utf8EncodeChar c ++ unescape rest
  | [] => []

/-- What a segment stands for; it has to be UTF-8. -/
def segmentText? (segment : List Char) : Option String :=
  let bytes := unescape segment
  let text := Utf8.decode bytes
  if Utf8.encode text = bytes then some text else none

/-- A name or a value of a query, in which a plus sign is a space. -/
def queryText (chars : List Char) : String :=
  Utf8.decode (unescape (chars.map fun c => if c = '+' then ' ' else c))

/-- The parameters of a query in order. -/
def parameters (target : Target) : List (String × String) :=
  ((Text.splitAt '&' target.query).filter fun piece => !piece.isEmpty).map fun piece =>
    let (name, value) := cut '=' piece
    (queryText name, queryText value)

end Target
end TokenOverlay
