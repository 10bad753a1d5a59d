namespace TokenOverlay
namespace Utf8

/-!
Text as UTF-8 bytes.  Every byte string can be read: each longest piece that
starts a character but does not finish one, and each byte that cannot start
one, is read as the replacement character.
-/

/-- The bytes of a text. -/
def encode (text : String) : List UInt8 := text.toList.flatMap String.utf8EncodeChar

def replacement : Char := Char.ofNat 0xFFFD

def between (low high byte : UInt8) : Bool := low ≤ byte && byte ≤ high

def isContinuation (byte : UInt8) : Bool := between 0x80 0xBF byte

/-- The second bytes that may follow the first byte of a three-byte character. -/
def secondOfThree (first second : UInt8) : Bool :=
  if first = 0xE0 then between 0xA0 0xBF second
  else if first = 0xED then between 0x80 0x9F second
  else isContinuation second

/-- The second bytes that may follow the first byte of a four-byte character. -/
def secondOfFour (first second : UInt8) : Bool :=
  if first = 0xF0 then between 0x90 0xBF second
  else if first = 0xF4 then between 0x80 0x8F second
  else isContinuation second

/-- The bits of a continuation byte. -/
def low6 (byte : UInt8) : Nat := byte.toNat % 64

/-- Read bytes as text, with replacement characters for what is not UTF-8. -/
def decodeChars : List UInt8 → List Char
  | [] => []
  | a :: rest =>
      if a < 0x80 then Char.ofNat a.toNat :: decodeChars rest
      else if between 0xC2 0xDF a then
        match rest with
        | b :: tail =>
            if isContinuation b then
              Char.ofNat (64 * (a.toNat % 32) + low6 b) :: decodeChars tail
            else replacement :: decodeChars (b :: tail)
        | [] => [replacement]
      else if between 0xE0 0xEF a then
        match rest with
        | b :: tail =>
            if secondOfThree a b then
              match tail with
              | c :: tail =>
                  if isContinuation c then
                    Char.ofNat (4096 * (a.toNat % 16) + 64 * low6 b + low6 c) :: decodeChars tail
                  else replacement :: decodeChars (c :: tail)
              | [] => [replacement]
            else replacement :: decodeChars (b :: tail)
        | [] => [replacement]
      else if between 0xF0 0xF4 a then
        match rest with
        | b :: tail =>
            if secondOfFour a b then
              match tail with
              | c :: tail =>
                  if isContinuation c then
                    match tail with
                    | d :: tail =>
                        if isContinuation d then
                          Char.ofNat (262144 * (a.toNat % 8) + 4096 * low6 b + 64 * low6 c + low6 d)
                            :: decodeChars tail
                        else replacement :: decodeChars (d :: tail)
                    | [] => [replacement]
                  else replacement :: decodeChars (c :: tail)
              | [] => [replacement]
            else replacement :: decodeChars (b :: tail)
        | [] => [replacement]
      else replacement :: decodeChars rest

def decode (bytes : List UInt8) : String := String.ofList (decodeChars bytes)

end Utf8
end TokenOverlay
