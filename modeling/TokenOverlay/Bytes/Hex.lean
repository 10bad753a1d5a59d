import TokenOverlay.Text.Blank

namespace TokenOverlay

/-!
Hexadecimal text.  Bytes are written in lower case and read in either case;
white space around the text is dropped before reading.
-/

abbrev Bytes := List UInt8

/-- Why a text is not hexadecimal. -/
inductive HexError where
  | oddLength
  | invalidByte (byte : UInt8) (position : Nat)
deriving DecidableEq, Repr

namespace Hex

def digitChar (n : Nat) : Char :=
  Char.ofNat (if n % 16 < 10 then 48 + n % 16 else 87 + n % 16)

def digitValue (byte : UInt8) : Option UInt8 :=
  if 48 ≤ byte ∧ byte ≤ 57 then some (byte - 48)
  else if 97 ≤ byte ∧ byte ≤ 102 then some (byte - 87)
  else if 65 ≤ byte ∧ byte ≤ 70 then some (byte - 55)
  else none

def encodeChars (bytes : Bytes) : List Char :=
  bytes.flatMap fun byte => [digitChar (byte.toNat / 16), digitChar byte.toNat]

def encode (bytes : Bytes) : String := String.ofList (encodeChars bytes)

/-- Read digits two by two, where `position` counts the bytes already read. -/
def decodePairs (position : Nat) : Bytes → Except HexError Bytes
  | [] => .ok []
  | [_] => .error .oddLength
  | high :: low :: rest =>
      match digitValue high, digitValue low with
      | none, _ => .error (.invalidByte high position)
      | some _, none => .error (.invalidByte low (position + 1))
      | some h, some l => do
          let bytes ← decodePairs (position + 2) rest
          return (16 * h + l) :: bytes

/-- Read the bytes of a text; an odd number of them is noticed first. -/
def decodeBytes (bytes : Bytes) : Except HexError Bytes :=
  if bytes.length % 2 = 1 then .error .oddLength else decodePairs 0 bytes

/-- Read hexadecimal text after trimming it. -/
def decode (text : String) : Except HexError Bytes :=
  decodeBytes ((Text.trimChars text.toList).flatMap String.utf8EncodeChar)

end Hex

namespace HexError

/-- A byte shown as a quoted character, with control characters escaped. -/
def quoted (byte : UInt8) : String :=
  match byte.toNat with
  | 0 => "'\\0'"
  | 9 => "'\\t'"
  | 10 => "'\\n'"
  | 13 => "'\\r'"
  | 39 => "'\\''"
  | 92 => "'\\\\'"
  | n =>
      if n < 32 || (127 ≤ n && n ≤ 160) || n = 173 then
        let code := if n < 16 then [Hex.digitChar n] else [Hex.digitChar (n / 16), Hex.digitChar n]
        "'\\u\x7b" ++ String.ofList code ++ "\x7d'"
      else "'" ++ String.singleton (Char.ofNat n) ++ "'"

def message : HexError → String
  | oddLength => "Odd number of digits"
  | invalidByte byte position => s!"Invalid character {quoted byte} at position {position}"

end HexError
end TokenOverlay
