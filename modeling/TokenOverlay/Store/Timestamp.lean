import TokenOverlay.Text.Blank
import TokenOverlay.Text.Decimal

namespace TokenOverlay
namespace Timestamp

/-!
Which texts are points in time.  The form is the usual one of a date, a time
and an offset from UTC, read with some leniency: white space may stand before
any number, digits may be fewer than usual, and the offset may be spelled in
several ways.  Only whether a text is accepted matters here.
-/

/-- The days of a month. -/
def daysOf (year : Int) (month : Nat) : Nat :=
  let leap := year % 4 = 0 ∧ (year % 100 ≠ 0 ∨ year % 400 = 0)
  match month with
  | 2 => if leap then 29 else 28
  | 4 | 6 | 9 | 11 => 30
  | _ => 31

/-- Up to `most` digits, at least one. -/
def number? (most : Nat) (chars : List Char) : Option (Nat × List Char) :=
  let found := (chars.take most).takeWhile Text.isDigit
  if found.isEmpty then none else some (Text.digitsValue found, chars.drop found.length)

/-- A number after white space. -/
def field? (most : Nat) (chars : List Char) : Option (Nat × List Char) :=
  number? most (Text.trimLeft chars)

/-- A year has four digits at most unless it bears a sign. -/
def year? (chars : List Char) : Option (Int × List Char) :=
  match Text.trimLeft chars with
  | '-' :: rest => (number? rest.length rest).map fun (n, rest) => (-(n : Int), rest)
  | '+' :: rest => (number? rest.length rest).map fun (n, rest) => ((n : Int), rest)
  | rest => (number? 4 rest).map fun (n, rest) => ((n : Int), rest)

/-- A separator after white space. -/
def skip? (separator : Char) (chars : List Char) : Option (List Char) :=
  match Text.trimLeft chars with
  | c :: rest => if c = separator then some rest else none
  | [] => none

/-- A fraction of a second, if there is one. -/
def fraction? : List Char → Option (List Char)
  | '.' :: rest =>
      let digits := rest.takeWhile Text.isDigit
      if digits.isEmpty then none else some (rest.drop digits.length)
  | rest => some rest

/-- Two digits. -/
def twoDigits? : List Char → Option (Nat × List Char)
  | a :: b :: rest =>
      if Text.isDigit a && Text.isDigit b then some (Text.digitsValue [a, b], rest) else none
  | _ => none

/-- The offset in seconds, and what follows it. -/
def offset? (chars : List Char) : Option (Int × List Char) :=
  match chars with
  | 'Z' :: rest => some (0, rest)
  | 'z' :: rest => some (0, rest)
  | sign :: rest =>
      if ((chars.take 3).map Char.toUpper) = ['U', 'T', 'C'] then some (0, chars.drop 3)
      else if sign = '+' ∨ sign = '-' ∨ sign.toNat = 0x2212 then do
        let (hours, rest) ← twoDigits? rest
        let (minutes, rest) ←
          twoDigits? (rest.dropWhile fun c => c = ':' || Text.isBlank c)
        if 60 ≤ minutes then none
        let seconds : Int := hours * 3600 + minutes * 60
        some (if sign = '+' then seconds else -seconds, rest)
      else none
  | [] => none

/-- The character between date and time. -/
def divider? : List Char → Option (List Char)
  | c :: rest => if c = 't' ∨ c = 'T' ∨ c = ' ' then some rest else none
  | [] => none

def firstYear : Int := -262143
def lastYear : Int := 262142

/-- The parts of a point in time that have to be in range. -/
def inRange (year : Int) (month day hour minute second : Nat) (offset : Int) : Bool :=
  firstYear ≤ year && year ≤ lastYear && 1 ≤ month && month ≤ 12 && 1 ≤ day &&
    day ≤ daysOf year month && hour < 24 && minute < 60 && second ≤ 60 &&
    -86400 < offset && offset < 86400

/-- Whether the day in UTC is in range too, given the second of the day there: it may be the
day before or after the local one. -/
def inRangeThere (year : Int) (month day : Nat) (second : Int) : Bool :=
  !(second < 0 && year = firstYear && month = 1 && day = 1) &&
    !(86400 ≤ second && year = lastYear && month = 12 && day = 31)

def readChars (chars : List Char) : Option Unit := do
  let (year, rest) ← year? chars
  let (month, rest) ← field? 2 (← skip? '-' rest)
  let (day, rest) ← field? 2 (← skip? '-' rest)
  let (hour, rest) ← field? 2 (← divider? rest)
  let (minute, rest) ← field? 2 (← skip? ':' rest)
  let (second, rest) ← field? 2 (← skip? ':' rest)
  let (offset, rest) ← offset? (Text.trimLeft (← fraction? rest))
  let secondThere : Int := hour * 3600 + minute * 60 + min second 59 - offset
  if inRange year month day hour minute second offset &&
      inRangeThere year month day secondThere && (Text.trimLeft rest).isEmpty then
    some ()
  else none

/-- Whether a text is a point in time. -/
def isTimestamp (text : String) : Bool := (readChars text.toList).isSome

end Timestamp
end TokenOverlay
