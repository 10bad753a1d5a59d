namespace TokenOverlay
namespace Text

/-!
White space is the character property of that name, not the ASCII blanks
alone: addresses, amounts and allocation lists may be pasted from anywhere.
-/

/-- The code points with the white-space property. -/
def isBlank (c : Char) : Bool :=
  let n := c.toNat
  (9 ≤ n && n ≤ 13) || n == 0x20 || n == 0x85 || n == 0xA0 || n == 0x1680 ||
    (0x2000 ≤ n && n ≤ 0x200A) || n == 0x2028 || n == 0x2029 || n == 0x202F ||
    n == 0x205F || n == 0x3000

/-- Drop the white space in front. -/
def trimLeft (chars : List Char) : List Char := chars.dropWhile isBlank

/-- Drop the white space on both sides. -/
def trimChars (chars : List Char) : List Char :=
  (trimLeft (trimLeft chars).reverse).reverse

def trim (text : String) : String := String.ofList (trimChars text.toList)

/-- The pieces between separators; there is always at least one. -/
def splitAt (separator : Char) : List Char → List (List Char)
  | [] => [[]]
  | c :: rest =>
      if c = separator then [] :: splitAt separator rest
      else
        match splitAt separator rest with
        | [] => [[c]]
        | piece :: pieces => (c :: piece) :: pieces

theorem splitAt_eq_splitOn (separator : Char) (chars : List Char) :
    splitAt separator chars = chars.splitOn separator := by
  induction chars with
  | nil => rfl
  | cons c rest ih =>
      rw [List.splitOn_cons_eq_if_modifyHead, splitAt, ih]
      simp only [beq_iff_eq]
      split
      · rfl
      · cases pieces : rest.splitOn separator with
        | nil => exact absurd pieces (List.splitOn_ne_nil separator rest)
        | cons piece others => rfl

/-- The entries of a comma-separated list, trimmed, without the empty ones. -/
def listEntries (text : String) : List (List Char) :=
  ((splitAt ',' text.toList).map trimChars).filter (fun piece => !piece.isEmpty)

end Text
end TokenOverlay
