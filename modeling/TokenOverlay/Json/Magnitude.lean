import TokenOverlay.Text.Decimal

namespace TokenOverlay
namespace Json

/-!
Which numerals are too large to be a number.  A numeral stands for a binary
floating-point number of 64 bits, worked out in two roundings: the leading
digits that fit 64 bits are taken as an integer, and that is multiplied by the
power of ten which the other digits and the exponent call for.  Only whether
the product is finite matters here, so everything is done on naturals.
-/

/-- The nearest number with 53 significant bits; of two equally near ones, the even one. -/
def round53 (n : Nat) : Nat :=
  let excess := n.log2 - 52
  let kept := n >>> excess
  let half := (1 <<< excess) / 2
  let lost := n - kept <<< excess
  if half < lost ∨ (lost = half ∧ 0 < half ∧ kept % 2 = 1) then (kept + 1) <<< excess
  else kept <<< excess

/-- No finite number is as large as this. -/
def infinite : Nat := 1 <<< 1024

/-- Whether an integer times a power of ten is finite. -/
def isFinite (significand : Nat) (exponent : Int) : Bool :=
  significand = 0 || exponent < 0 ||
    (exponent ≤ 308 &&
      round53 (round53 significand * round53 (Nat.pow 10 exponent.toNat)) < infinite)

/-- Append digits to an integer as long as it fits 64 bits: the integer, and the digits that
are left. -/
def absorb (value : Nat) : List Char → Nat × List Char
  | [] => (value, [])
  | c :: rest =>
      if 10 * value + Text.digitsValue [c] < UInt64.size then
        absorb (10 * value + Text.digitsValue [c]) rest
      else (value, c :: rest)

/-- Whether a numeral is finite, by its digits before and after the point and its exponent. -/
def numeralIsFinite (whole fraction : List Char) (exponent : Int) : Bool :=
  let (value, surplus) := absorb 0 whole
  let (value, ignored) := absorb value fraction
  isFinite value (exponent + surplus.length + ignored.length - fraction.length)

end Json
end TokenOverlay
