import TokenOverlay.Text.Utf8

namespace TokenOverlay
namespace Utf8

/-!
Reading a text back from its bytes.  A character whose bytes come first is read
as itself, whatever follows, so every text is read back from its bytes.  Only
the zero character has a zero byte.  Texts have the order of their bytes.
-/

/-! ## Bytes as numbers -/

theorem toNat_ofNat {n : Nat} (small : n < 256) : (UInt8.ofNat n).toNat = n :=
  Nat.mod_eq_of_lt small

theorem ofNat_eq_iff {n : Nat} (small : n < 256) (byte : UInt8) :
    UInt8.ofNat n = byte ↔ n = byte.toNat := by
  rw [← UInt8.toNat_inj, toNat_ofNat small]

theorem between_iff {low high byte : UInt8} :
    between low high byte = true ↔ low.toNat ≤ byte.toNat ∧ byte.toNat ≤ high.toNat := by
  rw [between, Bool.and_eq_true, decide_eq_true_eq, decide_eq_true_eq, UInt8.le_iff_toNat_le,
    UInt8.le_iff_toNat_le]

theorem between_ofNat {n : Nat} (small : n < 256) (low high : UInt8) :
    between low high (UInt8.ofNat n) = true ↔ low.toNat ≤ n ∧ n ≤ high.toNat := by
  rw [between_iff, toNat_ofNat small]

/-- A first byte of several is none of a single one. -/
theorem not_single {n : Nat} (low : 128 ≤ n) (high : n < 256) : ¬ UInt8.ofNat n < 0x80 := by
  rw [UInt8.lt_iff_toNat_lt, toNat_ofNat high]
  exact Nat.not_lt.mpr low

theorem isContinuation_ofNat (n : Nat) : isContinuation (UInt8.ofNat (n % 64 + 128)) = true := by
  rw [isContinuation, between_ofNat (by omega)]
  simp only [UInt8.reduceToNat]
  omega

theorem low6_ofNat (n : Nat) : low6 (UInt8.ofNat (n % 64 + 128)) = n % 64 := by
  rw [low6, toNat_ofNat (by omega)]
  omega

/-- The second byte of three is in range, because the character cannot be written shorter and is
no surrogate. -/
theorem secondOfThree_ofNat {v : Nat} (low : 2048 ≤ v) (high : v < 65536)
    (scalar : v < 55296 ∨ 57343 < v) :
    secondOfThree (UInt8.ofNat (v / 4096 + 224)) (UInt8.ofNat (v / 64 % 64 + 128)) = true := by
  have first : v / 4096 + 224 < 256 := by omega
  unfold secondOfThree
  split
  · next same =>
      rw [ofNat_eq_iff first] at same
      rw [between_ofNat (by omega)]
      simp only [UInt8.reduceToNat] at same ⊢
      omega
  · split
    · next same =>
        rw [ofNat_eq_iff first] at same
        rw [between_ofNat (by omega)]
        simp only [UInt8.reduceToNat] at same ⊢
        omega
    · exact isContinuation_ofNat (v / 64)

theorem secondOfFour_ofNat {v : Nat} (low : 65536 ≤ v) (high : v < 1114112) :
    secondOfFour (UInt8.ofNat (v / 262144 + 240)) (UInt8.ofNat (v / 4096 % 64 + 128)) = true := by
  have first : v / 262144 + 240 < 256 := by omega
  unfold secondOfFour
  split
  · next same =>
      rw [ofNat_eq_iff first] at same
      rw [between_ofNat (by omega)]
      simp only [UInt8.reduceToNat] at same ⊢
      omega
  · split
    · next same =>
        rw [ofNat_eq_iff first] at same
        rw [between_ofNat (by omega)]
        simp only [UInt8.reduceToNat] at same ⊢
        omega
    · exact isContinuation_ofNat (v / 4096)

/-- The first byte of three is none of two. -/
theorem leadOfThree_ofNat {v : Nat} (high : v < 65536) :
    ¬ between 0xC2 0xDF (UInt8.ofNat (v / 4096 + 224)) = true ∧
      between 0xE0 0xEF (UInt8.ofNat (v / 4096 + 224)) = true := by
  rw [between_ofNat (by omega), between_ofNat (by omega)]
  simp only [UInt8.reduceToNat]
  omega

/-- The first byte of four is none of two or three. -/
theorem leadOfFour_ofNat {v : Nat} (high : v < 1114112) :
    ¬ between 0xC2 0xDF (UInt8.ofNat (v / 262144 + 240)) = true ∧
      ¬ between 0xE0 0xEF (UInt8.ofNat (v / 262144 + 240)) = true ∧
      between 0xF0 0xF4 (UInt8.ofNat (v / 262144 + 240)) = true := by
  rw [between_ofNat (by omega), between_ofNat (by omega), between_ofNat (by omega)]
  simp only [UInt8.reduceToNat]
  omega

/-! ## One character -/

variable {v : Nat} (rest : List UInt8)

theorem decodeChars_one (high : v < 128) :
    decodeChars (UInt8.ofNat v :: rest) = Char.ofNat v :: decodeChars rest := by
  have single : UInt8.ofNat v < 0x80 := by
    rw [UInt8.lt_iff_toNat_lt, toNat_ofNat (by omega)]
    exact high
  rw [decodeChars.eq_def]
  dsimp only
  rw [if_pos single, toNat_ofNat (by omega)]

theorem decodeChars_two (low : 128 ≤ v) (high : v < 2048) :
    decodeChars (UInt8.ofNat (v / 64 + 192) :: UInt8.ofNat (v % 64 + 128) :: rest) =
      Char.ofNat v :: decodeChars rest := by
  have lead : between 0xC2 0xDF (UInt8.ofNat (v / 64 + 192)) = true := by
    rw [between_ofNat (by omega)]
    simp only [UInt8.reduceToNat]
    omega
  have value : 64 * ((v / 64 + 192) % 32) + v % 64 = v := by omega
  rw [decodeChars.eq_def]
  dsimp only
  rw [if_neg (not_single (by omega) (by omega)), if_pos lead, if_pos (isContinuation_ofNat v),
    low6_ofNat, toNat_ofNat (by omega), value]

theorem decodeChars_three (low : 2048 ≤ v) (high : v < 65536) (scalar : v < 55296 ∨ 57343 < v) :
    decodeChars (UInt8.ofNat (v / 4096 + 224) :: UInt8.ofNat (v / 64 % 64 + 128) ::
        UInt8.ofNat (v % 64 + 128) :: rest) =
      Char.ofNat v :: decodeChars rest := by
  rcases leadOfThree_ofNat high with ⟨notTwo, lead⟩
  have value : 4096 * ((v / 4096 + 224) % 16) + 64 * (v / 64 % 64) + v % 64 = v := by omega
  rw [decodeChars.eq_def]
  dsimp only
  rw [if_neg (not_single (by omega) (by omega)), if_neg notTwo, if_pos lead,
    if_pos (secondOfThree_ofNat low high scalar), if_pos (isContinuation_ofNat v),
    low6_ofNat, low6_ofNat, toNat_ofNat (by omega), value]

theorem decodeChars_four (low : 65536 ≤ v) (high : v < 1114112) :
    decodeChars (UInt8.ofNat (v / 262144 + 240) :: UInt8.ofNat (v / 4096 % 64 + 128) ::
        UInt8.ofNat (v / 64 % 64 + 128) :: UInt8.ofNat (v % 64 + 128) :: rest) =
      Char.ofNat v :: decodeChars rest := by
  rcases leadOfFour_ofNat high with ⟨notTwo, notThree, lead⟩
  have value : 262144 * ((v / 262144 + 240) % 8) + 4096 * (v / 4096 % 64) + 64 * (v / 64 % 64) +
      v % 64 = v := by omega
  rw [decodeChars.eq_def]
  dsimp only
  rw [if_neg (not_single (by omega) (by omega)), if_neg notTwo, if_neg notThree, if_pos lead,
    if_pos (secondOfFour_ofNat low high), if_pos (isContinuation_ofNat (v / 64)),
    if_pos (isContinuation_ofNat v), low6_ofNat, low6_ofNat, low6_ofNat, toNat_ofNat (by omega),
    value]

/-- The bytes of a character, by how many they are. -/
theorem utf8EncodeChar_eq (c : Char) :
    String.utf8EncodeChar c =
      if c.toNat < 128 then [UInt8.ofNat c.toNat]
      else if c.toNat < 2048 then
        [UInt8.ofNat (c.toNat / 64 + 192), UInt8.ofNat (c.toNat % 64 + 128)]
      else if c.toNat < 65536 then
        [UInt8.ofNat (c.toNat / 4096 + 224), UInt8.ofNat (c.toNat / 64 % 64 + 128),
          UInt8.ofNat (c.toNat % 64 + 128)]
      else [UInt8.ofNat (c.toNat / 262144 + 240), UInt8.ofNat (c.toNat / 4096 % 64 + 128),
        UInt8.ofNat (c.toNat / 64 % 64 + 128), UInt8.ofNat (c.toNat % 64 + 128)] := by
  have scalar : c.toNat < 55296 ∨ 57343 < c.toNat ∧ c.toNat < 1114112 := c.valid
  unfold String.utf8EncodeChar
  change (if c.toNat ≤ 127 then [UInt8.ofNat c.toNat]
    else if c.toNat ≤ 2047 then
      [UInt8.ofNat (c.toNat / 64 % 32 + 192), UInt8.ofNat (c.toNat % 64 + 128)]
    else if c.toNat ≤ 65535 then
      [UInt8.ofNat (c.toNat / 4096 % 16 + 224), UInt8.ofNat (c.toNat / 64 % 64 + 128),
        UInt8.ofNat (c.toNat % 64 + 128)]
    else [UInt8.ofNat (c.toNat / 262144 % 8 + 240), UInt8.ofNat (c.toNat / 4096 % 64 + 128),
      UInt8.ofNat (c.toNat / 64 % 64 + 128), UInt8.ofNat (c.toNat % 64 + 128)]) = _
  grind

/-- A character is read from its bytes, and reading goes on behind them. -/
theorem decodeChars_encodeChar (c : Char) :
    decodeChars (String.utf8EncodeChar c ++ rest) = c :: decodeChars rest := by
  have scalar : c.toNat < 55296 ∨ 57343 < c.toNat ∧ c.toNat < 1114112 := c.valid
  have self : Char.ofNat c.toNat = c := Char.ofNat_toNat c
  rw [utf8EncodeChar_eq]
  split
  · next one => exact (decodeChars_one rest one).trans (by rw [self])
  · split
    · next two => exact (decodeChars_two rest (by omega) two).trans (by rw [self])
    · split
      · next three =>
          exact (decodeChars_three rest (by omega) three (by omega)).trans (by rw [self])
      · exact (decodeChars_four rest (by omega) (by omega)).trans (by rw [self])

/-- Every text is read back from its bytes. -/
theorem decode_encode (text : String) : decode (encode text) = text := by
  have chars : ∀ characters : List Char,
      decodeChars (characters.flatMap String.utf8EncodeChar) = characters := by
    intro characters
    induction characters with
    | nil => rfl
    | cons c rest ih => rw [List.flatMap_cons, decodeChars_encodeChar, ih]
  rw [decode, encode, chars, String.ofList_toList]

/-- Only the zero character has a zero byte. -/
theorem ne_zero_of_mem_encodeChar {c : Char} (nonzero : c ≠ '\x00') {byte : UInt8}
    (member : byte ∈ String.utf8EncodeChar c) : byte ≠ 0 := by
  have scalar : c.toNat < 55296 ∨ 57343 < c.toNat ∧ c.toNat < 1114112 := c.valid
  have positive : 0 < c.toNat := by
    refine Nat.pos_of_ne_zero fun same => nonzero ?_
    rw [← Char.ofNat_toNat c, same]
  have byteOf : ∀ n, n < 256 → 0 < n → byte = UInt8.ofNat n → byte ≠ 0 := by
    rintro n small above rfl
    rw [ne_eq, ofNat_eq_iff small]
    exact Nat.ne_of_gt above
  rw [utf8EncodeChar_eq] at member
  split at member
  · exact byteOf _ (by omega) positive (List.mem_singleton.mp member)
  · split at member
    · simp only [List.mem_cons, List.not_mem_nil, or_false] at member
      rcases member with first | second
      · exact byteOf _ (by omega) (by omega) first
      · exact byteOf _ (by omega) (by omega) second
    · split at member
      · simp only [List.mem_cons, List.not_mem_nil, or_false] at member
        rcases member with first | second | third
        · exact byteOf _ (by omega) (by omega) first
        · exact byteOf _ (by omega) (by omega) second
        · exact byteOf _ (by omega) (by omega) third
      · simp only [List.mem_cons, List.not_mem_nil, or_false] at member
        rcases member with first | second | third | fourth
        · exact byteOf _ (by omega) (by omega) first
        · exact byteOf _ (by omega) (by omega) second
        · exact byteOf _ (by omega) (by omega) third
        · exact byteOf _ (by omega) (by omega) fourth

/-- The bytes of a text without zero characters hold no zero byte. -/
theorem zero_notMem_encode {text : String} (clean : '\x00' ∉ text.toList) :
    (0 : UInt8) ∉ encode text := by
  intro member
  rcases List.mem_flatMap.mp member with ⟨c, inside, zero⟩
  have nonzero : c ≠ '\x00' := fun same => clean (same ▸ inside)
  exact ne_zero_of_mem_encodeChar nonzero zero rfl

/-! ## Order -/

/-- The first byte of two rows decides, unless it is the same. -/
theorem cons_lt_cons_of {m n : Nat} {left right : List UInt8} (first : m < 256) (second : n < 256)
    (least : m ≤ n) (behind : m = n → left < right) :
    UInt8.ofNat m :: left < UInt8.ofNat n :: right := by
  rw [List.cons_lt_cons_iff]
  rcases Nat.lt_or_eq_of_le least with less | same
  · exact Or.inl ((UInt8.ofNat_lt_iff_lt first second).mpr less)
  · exact Or.inr ⟨congrArg UInt8.ofNat same, behind same⟩

/-- The bytes of a smaller character come first, whatever follows the two. -/
theorem encodeChar_lt {c d : Char} (less : c.toNat < d.toNat) (left right : List UInt8) :
    String.utf8EncodeChar c ++ left < String.utf8EncodeChar d ++ right := by
  have scalar : d.toNat < 55296 ∨ 57343 < d.toNat ∧ d.toNat < 1114112 := d.valid
  rw [utf8EncodeChar_eq, utf8EncodeChar_eq]
  generalize c.toNat = m at less ⊢
  generalize d.toNat = n at less scalar ⊢
  -- Of different lengths the first byte decides, of one length the first byte that differs.
  by_cases one : m < 128
  · rw [if_pos one]
    split
    · exact cons_lt_cons_of (by omega) (by omega) (by omega) (by omega)
    · split
      · exact cons_lt_cons_of (by omega) (by omega) (by omega) (by omega)
      · split
        · exact cons_lt_cons_of (by omega) (by omega) (by omega) (by omega)
        · exact cons_lt_cons_of (by omega) (by omega) (by omega) (by omega)
  · rw [if_neg one, if_neg (show ¬ n < 128 by omega)]
    by_cases two : m < 2048
    · rw [if_pos two]
      split
      · apply cons_lt_cons_of (by omega) (by omega) (by omega)
        intro lead
        exact cons_lt_cons_of (by omega) (by omega) (by omega) (by omega)
      · split
        · exact cons_lt_cons_of (by omega) (by omega) (by omega) (by omega)
        · exact cons_lt_cons_of (by omega) (by omega) (by omega) (by omega)
    · rw [if_neg two, if_neg (show ¬ n < 2048 by omega)]
      by_cases three : m < 65536
      · rw [if_pos three]
        split
        · apply cons_lt_cons_of (by omega) (by omega) (by omega)
          intro lead
          apply cons_lt_cons_of (by omega) (by omega) (by omega)
          intro second
          exact cons_lt_cons_of (by omega) (by omega) (by omega) (by omega)
        · exact cons_lt_cons_of (by omega) (by omega) (by omega) (by omega)
      · rw [if_neg three, if_neg (show ¬ n < 65536 by omega)]
        apply cons_lt_cons_of (by omega) (by omega) (by omega)
        intro lead
        apply cons_lt_cons_of (by omega) (by omega) (by omega)
        intro second
        apply cons_lt_cons_of (by omega) (by omega) (by omega)
        intro third
        exact cons_lt_cons_of (by omega) (by omega) (by omega) (by omega)

/-- A smaller text has smaller bytes. -/
theorem encode_lt_of_lt {left right : String} (less : left < right) :
    encode left < encode right := by
  have chars : ∀ {left right : List Char}, left < right →
      left.flatMap String.utf8EncodeChar < right.flatMap String.utf8EncodeChar := by
    intro left right less
    induction less with
    | @nil c rest =>
        rw [List.flatMap_cons]
        cases written : String.utf8EncodeChar c with
        | nil => exact absurd written String.utf8EncodeChar_ne_nil
        | cons first others => exact List.nil_lt_cons _ _
    | cons less ih => exact List.append_left_lt ih
    | rel less => exact encodeChar_lt less _ _
  exact chars (String.lt_iff.mp less)

end Utf8
end TokenOverlay
