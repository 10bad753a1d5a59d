import TokenOverlay.Text.CaseTable

namespace TokenOverlay
namespace Text

/-!
Lower-casing of arbitrary text.  Every character has a lower-case form of its
own except two: a dotted capital I becomes an i and a combining dot, and a
capital sigma takes its final form at the end of a word.
-/

def inRanges (ranges : List (Nat × Nat)) (c : Char) : Bool :=
  ranges.any fun range => range.1 ≤ c.toNat && c.toNat ≤ range.2

def isCased (c : Char) : Bool := inRanges casedRanges c

def isCaseIgnorable (c : Char) : Bool := inRanges caseIgnorableRanges c

/-- The lower-case form of one character on its own. -/
def lowerChar (c : Char) : List Char :=
  let n := c.toNat
  if n = 0x130 then ['i', Char.ofNat 0x307]
  else
    match lowerCaseRuns.find? fun (first, last, step, _) =>
        first ≤ n && n ≤ last && (n - first) % step == 0 with
    | some (first, _, _, form) => [Char.ofNat (form + (n - first))]
    | none => [c]

/-- Whether the first character that counts has case. -/
def meetsCased (chars : List Char) : Bool :=
  match chars.dropWhile isCaseIgnorable with
  | [] => false
  | c :: _ => isCased c

/-- Lower-case what follows the characters `before`, which are given last first. -/
def lowerFrom (before : List Char) : List Char → List Char
  | [] => []
  | c :: rest =>
      let form :=
        if c.toNat = 0x3A3 then
          [Char.ofNat (if meetsCased before && !meetsCased rest then 0x3C2 else 0x3C3)]
        else lowerChar c
      form ++ lowerFrom (c :: before) rest

def lowerCase (text : String) : String := String.ofList (lowerFrom [] text.toList)

end Text
end TokenOverlay
