namespace TokenOverlay
namespace Text

/-!
Decimal numerals: how a number is written, what value digits have, and which
texts a bounded number is read from.
-/

def digitChar (n : Nat) : Char := Char.ofNat (48 + n % 10)

/-- The digits of a number, without leading zeros. -/
def digits (n : Nat) : List Char :=
  if n < 10 then [digitChar n] else digits (n / 10) ++ [digitChar n]
termination_by n

/-- The value of a row of digits. -/
def digitsValue (chars : List Char) : Nat :=
  chars.foldl (fun value c => 10 * value + (c.toNat - 48)) 0

def isDigit (c : Char) : Bool := 48 ≤ c.toNat && c.toNat ≤ 57

/-- The number written by a non-empty row of digits. -/
def readDigits (chars : List Char) : Option Nat :=
  if !chars.isEmpty && chars.all isDigit then some (digitsValue chars) else none

/-- A natural number below a bound, with an optional plus sign in front. -/
def readNat (bound : Nat) (chars : List Char) : Option Nat :=
  let unsigned :=
    match chars with
    | '+' :: rest => rest
    | _ => chars
  (readDigits unsigned).bind fun n => if n < bound then some n else none

/-- A number between two bounds, with an optional sign in front. -/
def readInt (lowest highest : Int) (chars : List Char) : Option Int :=
  let value :=
    match chars with
    | '+' :: rest => (readDigits rest).map Int.ofNat
    | '-' :: rest => (readDigits rest).map fun n => -Int.ofNat n
    | _ => (readDigits chars).map Int.ofNat
  value.bind fun n => if lowest ≤ n ∧ n ≤ highest then some n else none

/-- The canonical numeral of a number below a bound: no sign and no leading zeros. -/
def readCanonical (bound : Nat) (chars : List Char) : Option Nat :=
  (readDigits chars).bind fun n => if n < bound ∧ digits n = chars then some n else none

def natText (n : Nat) : String := String.ofList (digits n)

def intText : Int → String
  | .ofNat n => natText n
  | .negSucc n => String.ofList ('-' :: digits (n + 1))

end Text
end TokenOverlay
