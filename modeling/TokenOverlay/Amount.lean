import TokenOverlay.Text.Blank
import TokenOverlay.Text.Decimal

namespace TokenOverlay

/-!
Token amounts.  An amount is an integer count of the smallest unit that fits
64 signed bits; the operations that may leave that range say so.  Amounts of
divisible tokens are shown with eight places.
-/

/-- Smallest units in one whole divisible token. -/
def coin : Int := 100000000

/-- The supply ceiling of every token, and the largest amount. -/
def maxTokens : Int := 9223372036854775807

namespace Amount

def least : Int := -9223372036854775808

/-- The amounts that fit 64 signed bits. -/
def Fits (n : Int) : Prop := least ≤ n ∧ n ≤ maxTokens

instance (n : Int) : Decidable (Fits n) := inferInstanceAs (Decidable (_ ∧ _))

/-- A sum that has to fit. -/
def add? (a b : Int) : Option Int := if Fits (a + b) then some (a + b) else none

/-- A product that has to fit. -/
def mul? (a b : Int) : Option Int := if Fits (a * b) then some (a * b) else none

/-- The nearest amount that fits. -/
def saturate (n : Int) : Int := max least (min maxTokens n)

/-- The amount with the same lowest 64 bits. -/
def wrap (n : Int) : Int := n.bmod UInt64.size

/-- The sum of some amounts, which need not be an amount itself. -/
def total : List Int → Int
  | [] => 0
  | n :: rest => n + total rest

theorem add?_eq_some {a b c : Int} : add? a b = some c ↔ c = a + b ∧ Fits (a + b) := by
  unfold add?
  split
  · next fits => simp [fits, eq_comm]
  · next fits => simp [fits]

theorem wrap_of_fits {n : Int} (fits : Fits n) : wrap n = n := by
  unfold Fits least maxTokens at fits
  unfold wrap UInt64.size
  apply Int.bmod_eq_of_le <;> omega

theorem saturate_of_fits {n : Int} (fits : Fits n) : saturate n = n := by
  unfold Fits least maxTokens at fits
  unfold saturate least maxTokens
  omega

/-- A row of at least eight characters, filled up with zeros in front. -/
def padLeft (chars : List Char) : List Char :=
  List.replicate (8 - chars.length) '0' ++ chars

def padRight (chars : List Char) : List Char :=
  chars ++ List.replicate (8 - chars.length) '0'

/-- The text of an amount: a plain integer, or for divisible tokens eight places. -/
def formatChars (raw : Int) (divisible : Bool) : List Char :=
  let sign := if raw < 0 then ['-'] else []
  let size := raw.natAbs
  if divisible then
    sign ++ Text.digits (size / 100000000) ++ '.' :: padLeft (Text.digits (size % 100000000))
  else sign ++ Text.digits size

def format (raw : Int) (divisible : Bool) : String := String.ofList (formatChars raw divisible)

/-- Split at the first point; without one the fraction is empty. -/
def splitPoint (chars : List Char) : List Char × List Char :=
  (chars.takeWhile (· ≠ '.'), (chars.dropWhile (· ≠ '.')).drop 1)

/-- Read an amount from trimmed text.  Signs, separators and places that are not there are
refused, as is a number that does not fit. -/
def parseChars (chars : List Char) (divisible : Bool) : Option Int :=
  let (whole, fraction) := splitPoint chars
  if !whole.all Text.isDigit || !fraction.all Text.isDigit then none
  else if whole.isEmpty && fraction.isEmpty then none
  else
    let units : Int := Text.digitsValue whole
    if ¬ Fits units then none
    else if !divisible then
      if fraction.all (· = '0') then some units else none
    else if 8 < fraction.length then none
    else (mul? units coin).bind fun base => add? base (Text.digitsValue (padRight fraction))

def parse (text : String) (divisible : Bool) : Option Int :=
  parseChars (Text.trimChars text.toList) divisible

end Amount
end TokenOverlay
