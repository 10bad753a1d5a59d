import TokenOverlay.Proofs.Messages

namespace TokenOverlay

/-!
Writing again what was read.  A text is cut after as many bytes as its field
holds, and a character that loses some of its bytes there is read as the
replacement character.  Bytes that are not UTF-8 may be read as a text that is
longer than they are, so a message that was read need not be written whole.
Writing and reading it once more changes nothing further.
-/

namespace Utf8

/-! ## Pieces of characters -/

theorem decodeChars_lead {a : UInt8} (several : ¬ a < 0x80) : decodeChars [a] = [replacement] := by
  rw [decodeChars.eq_def]
  dsimp only
  rw [if_neg several]
  split
  · rfl
  · split
    · rfl
    · split <;> rfl

theorem decodeChars_two_of_three {a b : UInt8} (several : ¬ a < 0x80)
    (notTwo : ¬ between 0xC2 0xDF a = true) (lead : between 0xE0 0xEF a = true)
    (second : secondOfThree a b = true) : decodeChars [a, b] = [replacement] := by
  rw [decodeChars.eq_def]
  dsimp only
  rw [if_neg several, if_neg notTwo, if_pos lead, if_pos second]

theorem decodeChars_two_of_four {a b : UInt8} (several : ¬ a < 0x80)
    (notTwo : ¬ between 0xC2 0xDF a = true) (notThree : ¬ between 0xE0 0xEF a = true)
    (lead : between 0xF0 0xF4 a = true) (second : secondOfFour a b = true) :
    decodeChars [a, b] = [replacement] := by
  rw [decodeChars.eq_def]
  dsimp only
  rw [if_neg several, if_neg notTwo, if_neg notThree, if_pos lead, if_pos second]

theorem decodeChars_three_of_four {a b c : UInt8} (several : ¬ a < 0x80)
    (notTwo : ¬ between 0xC2 0xDF a = true) (notThree : ¬ between 0xE0 0xEF a = true)
    (lead : between 0xF0 0xF4 a = true) (second : secondOfFour a b = true)
    (third : isContinuation c = true) : decodeChars [a, b, c] = [replacement] := by
  rw [decodeChars.eq_def]
  dsimp only
  rw [if_neg several, if_neg notTwo, if_neg notThree, if_pos lead, if_pos second, if_pos third]

/-- A character that has lost its last bytes is read as one replacement character. -/
theorem decodeChars_take_encodeChar {c : Char} {n : Nat} (some : 0 < n)
    (fewer : n < (String.utf8EncodeChar c).length) :
    decodeChars ((String.utf8EncodeChar c).take n) = [replacement] := by
  have scalar : c.toNat < 55296 ∨ 57343 < c.toNat ∧ c.toNat < 1114112 := c.valid
  rw [utf8EncodeChar_eq] at fewer ⊢
  generalize c.toNat = v at scalar fewer ⊢
  split at fewer
  · simp only [List.length_singleton] at fewer
    omega
  · next one =>
      rw [if_neg one]
      split at fewer
      · next two =>
          rw [if_pos two]
          simp only [List.length_cons, List.length_nil] at fewer
          obtain rfl : n = 1 := by omega
          exact decodeChars_lead (not_single (by omega) (by omega))
      · next two =>
          rw [if_neg two]
          split at fewer
          · next three =>
              rw [if_pos three]
              simp only [List.length_cons, List.length_nil] at fewer
              have several := not_single (n := v / 4096 + 224) (by omega) (by omega)
              rcases leadOfThree_ofNat three with ⟨notTwo, lead⟩
              rcases (by omega : n = 1 ∨ n = 2) with rfl | rfl
              · exact decodeChars_lead several
              · exact decodeChars_two_of_three several notTwo lead
                  (secondOfThree_ofNat (by omega) three (by omega))
          · next three =>
              rw [if_neg three]
              simp only [List.length_cons, List.length_nil] at fewer
              have several := not_single (n := v / 262144 + 240) (by omega) (by omega)
              have high : v < 1114112 := by omega
              rcases leadOfFour_ofNat high with ⟨notTwo, notThree, lead⟩
              have second := secondOfFour_ofNat (Nat.le_of_not_lt three) high
              rcases (by omega : n = 1 ∨ n = 2 ∨ n = 3) with rfl | rfl | rfl
              · exact decodeChars_lead several
              · exact decodeChars_two_of_four several notTwo notThree lead second
              · exact decodeChars_three_of_four several notTwo notThree lead second
                  (isContinuation_ofNat (v / 64))

/-! ## Rows of characters that are cut -/

/-- How many bytes some characters take. -/
def width (chars : List Char) : Nat := (chars.flatMap String.utf8EncodeChar).length

/-- The characters that fit into a number of bytes, and behind them a replacement character for
one that loses only some of its bytes. -/
def cut : Nat → List Char → List Char
  | _, [] => []
  | n, c :: rest =>
      if (String.utf8EncodeChar c).length ≤ n then
        c :: cut (n - (String.utf8EncodeChar c).length) rest
      else if n = 0 then []
      else [replacement]

/-- The characters take at most so many bytes, or up to two more and end with a replacement
character. -/
def Stays (n : Nat) (chars : List Char) : Prop :=
  width chars ≤ n ∨ width chars ≤ n + 2 ∧ chars.getLast? = some replacement

theorem width_nil : width [] = 0 := rfl

theorem width_cons (c : Char) (rest : List Char) :
    width (c :: rest) = (String.utf8EncodeChar c).length + width rest := by
  rw [width, List.flatMap_cons, List.length_append, width]

theorem length_encodeChar_replacement : (String.utf8EncodeChar replacement).length = 3 := by
  decide

/-- The bytes of characters, cut somewhere, are read as the characters cut there. -/
theorem decodeChars_take (n : Nat) (chars : List Char) :
    decodeChars ((chars.flatMap String.utf8EncodeChar).take n) = cut n chars := by
  induction chars generalizing n with
  | nil => rw [List.flatMap_nil, List.take_nil]; rfl
  | cons c rest ih =>
      rw [List.flatMap_cons, List.take_append]
      by_cases fits : (String.utf8EncodeChar c).length ≤ n
      · rw [List.take_of_length_le fits, decodeChars_encodeChar, ih, cut, if_pos fits]
      · have nothing : n - (String.utf8EncodeChar c).length = 0 := by omega
        rw [nothing, List.take_zero, List.append_nil, cut, if_neg fits]
        by_cases none : n = 0
        · rw [if_pos none, none, List.take_zero]
          rfl
        · rw [if_neg none]
          exact decodeChars_take_encodeChar (Nat.pos_of_ne_zero none) (Nat.lt_of_not_le fits)

/-- Characters that were cut are not cut further. -/
theorem cut_cut (n : Nat) (chars : List Char) : cut n (cut n chars) = cut n chars := by
  induction chars generalizing n with
  | nil => rfl
  | cons c rest ih =>
      by_cases fits : (String.utf8EncodeChar c).length ≤ n
      · rw [cut, if_pos fits, cut, if_pos fits, ih]
      · by_cases none : n = 0
        · rw [cut, if_neg fits, if_pos none]
          rfl
        · rw [cut, if_neg fits, if_neg none, cut]
          split
          · rfl
          · rfl

theorem le_width_of_getLast? {chars : List Char} {c : Char} (last : chars.getLast? = some c) :
    (String.utf8EncodeChar c).length ≤ width chars := by
  rcases List.getLast?_eq_some_iff.mp last with ⟨front, rfl⟩
  rw [width, List.flatMap_append, List.flatMap_singleton, List.length_append]
  exact Nat.le_add_left _ _

theorem stays_cons_of_fits {n : Nat} {c : Char} (fits : (String.utf8EncodeChar c).length ≤ n)
    (rest : List Char) :
    Stays n (c :: rest) ↔ Stays (n - (String.utf8EncodeChar c).length) rest := by
  unfold Stays
  rw [width_cons]
  cases rest with
  | nil =>
      apply iff_of_true
      · exact Or.inl (by rw [width_nil]; omega)
      · exact Or.inl (Nat.zero_le _)
  | cons d others =>
      rw [List.getLast?_cons_cons]
      apply or_congr
      · omega
      · exact and_congr_left fun _ => by omega

/-- A character that does not fit has to be a replacement character at the end, and some of its
bytes have to fit. -/
theorem stays_cons_of_over {n : Nat} {c : Char} (exceeds : n < (String.utf8EncodeChar c).length)
    (rest : List Char) : Stays n (c :: rest) ↔ n ≠ 0 ∧ c = replacement ∧ rest = [] := by
  have three := length_encodeChar_replacement
  unfold Stays
  rw [width_cons]
  constructor
  · rintro (whole | ⟨little, last⟩)
    · omega
    · cases rest with
      | nil =>
          obtain rfl : c = replacement := Option.some.inj last
          exact ⟨by omega, rfl, rfl⟩
      | cons d others =>
          rw [List.getLast?_cons_cons] at last
          have bytes := le_width_of_getLast? last
          omega
  · rintro ⟨some, rfl, rfl⟩
    exact Or.inr ⟨by rw [width_nil]; omega, rfl⟩

/-- Characters stay if they fit, or if the cut goes through a replacement character at their
end. -/
theorem cut_eq_self_iff (n : Nat) (chars : List Char) : cut n chars = chars ↔ Stays n chars := by
  induction chars generalizing n with
  | nil => exact iff_of_true rfl (Or.inl (Nat.zero_le n))
  | cons c rest ih =>
      by_cases fits : (String.utf8EncodeChar c).length ≤ n
      · rw [cut, if_pos fits, List.cons.injEq, and_iff_right rfl, ih, stays_cons_of_fits fits]
      · rw [cut, if_neg fits, stays_cons_of_over (Nat.lt_of_not_le fits)]
        by_cases none : n = 0
        · simp [none]
        · simp [none, eq_comm]

/-! ## Zero characters -/

theorem ofNat_ne_zero {n : Nat} (positive : 0 < n) (scalar : n < 55296 ∨ 57343 < n ∧ n < 1114112) :
    '\x00' ≠ Char.ofNat n := by
  intro same
  have value : (Char.ofNat n).toNat = n := by
    have valid : n.isValidChar := scalar
    rw [Char.ofNat, dif_pos valid]
    rfl
  rw [← same] at value
  exact absurd value (Nat.ne_of_lt positive)

theorem ofThree_ne_zero {a b : UInt8} (lead : between 0xE0 0xEF a = true)
    (second : secondOfThree a b = true) (c : UInt8) :
    '\x00' ≠ Char.ofNat (4096 * (a.toNat % 16) + 64 * low6 b + low6 c) := by
  unfold secondOfThree isContinuation at second
  unfold low6
  split at second
  · next same =>
      rw [between_iff] at second
      simp only [← UInt8.toNat_inj, UInt8.reduceToNat] at same second
      apply ofNat_ne_zero <;> omega
  · next large =>
      rw [between_iff] at lead
      simp only [← UInt8.toNat_inj, UInt8.reduceToNat] at large lead
      split at second
      · next same =>
          rw [between_iff] at second
          simp only [← UInt8.toNat_inj, UInt8.reduceToNat] at same second
          apply ofNat_ne_zero <;> omega
      · next other =>
          simp only [← UInt8.toNat_inj, UInt8.reduceToNat] at other
          apply ofNat_ne_zero <;> omega

theorem ofFour_ne_zero {a b : UInt8} (lead : between 0xF0 0xF4 a = true)
    (second : secondOfFour a b = true) (c d : UInt8) :
    '\x00' ≠ Char.ofNat (262144 * (a.toNat % 8) + 4096 * low6 b + 64 * low6 c + low6 d) := by
  unfold secondOfFour isContinuation at second
  unfold low6
  rw [between_iff] at lead
  simp only [UInt8.reduceToNat] at lead
  split at second
  · next same =>
      rw [between_iff] at second
      simp only [← UInt8.toNat_inj, UInt8.reduceToNat] at same second
      apply ofNat_ne_zero <;> omega
  · next large =>
      simp only [← UInt8.toNat_inj, UInt8.reduceToNat] at large
      split at second
      · next same =>
          rw [between_iff] at second
          simp only [← UInt8.toNat_inj, UInt8.reduceToNat] at same second
          apply ofNat_ne_zero <;> omega
      · next other =>
          simp only [← UInt8.toNat_inj, UInt8.reduceToNat] at other
          apply ofNat_ne_zero <;> omega

/-- Bytes without a zero byte are read without a zero character. -/
theorem zero_notMem_decodeChars {bytes : List UInt8} (zeroless : (0 : UInt8) ∉ bytes) :
    '\x00' ∉ decodeChars bytes := by
  have lost : '\x00' ≠ replacement := by decide
  fun_induction decodeChars bytes with
  | case2 a rest single ih =>
      rw [List.mem_cons, not_or] at zeroless ⊢
      rw [UInt8.lt_iff_toNat_lt] at single
      simp only [UInt8.reduceToNat] at single
      have first : a.toNat ≠ 0 := fun same => zeroless.1 (UInt8.toNat_inj.mp same).symm
      exact ⟨ofNat_ne_zero (by omega) (by omega), ih zeroless.2⟩
  | case3 a several lead b rest second ih =>
      simp only [List.mem_cons, not_or] at zeroless ⊢
      rw [between_iff] at lead
      simp only [UInt8.reduceToNat] at lead
      unfold low6
      exact ⟨ofNat_ne_zero (by omega) (by omega), ih zeroless.2.2⟩
  | case6 a several notTwo lead b second c rest third ih =>
      simp only [List.mem_cons, not_or] at zeroless ⊢
      exact ⟨ofThree_ne_zero lead second c, ih zeroless.2.2.2⟩
  | case11 a several notTwo notThree lead b second c third d rest fourth ih =>
      simp only [List.mem_cons, not_or] at zeroless ⊢
      exact ⟨ofFour_ne_zero lead second c d, ih zeroless.2.2.2.2⟩
  | _ => simp_all
end Utf8

/-! ## Texts -/

/-- The description with a change made to each of its texts. -/
def Description.mapTexts (change : String → String) (d : Description) : Description where
  category := change d.category
  subcategory := change d.subcategory
  name := change d.name
  url := change d.url
  data := change d.data

def Issuance.mapTexts (change : String → String) (i : Issuance) : Issuance :=
  { i with description := i.description.mapTexts change }

namespace Payload

/-- The payload with a change made to each of its texts. -/
def mapTexts (change : String → String) : Payload → Payload
  | issueFixed i amount => issueFixed (i.mapTexts change) amount
  | issueCrowdsale i desired tokensPerUnit deadline earlyBonus issuerPercent =>
      issueCrowdsale (i.mapTexts change) desired tokensPerUnit deadline earlyBonus issuerPercent
  | issueManaged i => issueManaged (i.mapTexts change)
  | grant property amount memo => grant property amount (change memo)
  | revoke property amount memo => revoke property amount (change memo)
  | payload => payload

variable (change again : String → String) (payload : Payload)

theorem texts_mapTexts : (payload.mapTexts change).texts = payload.texts.map change := by
  cases payload <;> rfl

theorem versions_mapTexts : (payload.mapTexts change).versions = payload.versions := by
  cases payload <;> rfl

theorem messageType_mapTexts : (payload.mapTexts change).messageType = payload.messageType := by
  cases payload <;> rfl

theorem leading_mapTexts : Wire.leading (payload.mapTexts change) = Wire.leading payload := by
  cases payload <;> rfl

theorem trailing_mapTexts : Wire.trailing (payload.mapTexts change) = Wire.trailing payload := by
  cases payload <;> rfl

theorem mapTexts_mapTexts :
    (payload.mapTexts change).mapTexts again = payload.mapTexts (again ∘ change) := by
  cases payload <;> rfl

variable {change payload}

/-- Only the texts matter to what a change of them does. -/
theorem mapTexts_eq_self_iff :
    payload.mapTexts change = payload ↔ ∀ value ∈ payload.texts, change value = value := by
  have described : ∀ i : Issuance, i.mapTexts change = i ↔
      ∀ value ∈ Wire.textsOf i.description, change value = value := by
    rintro ⟨ecosystem, propertyType, previous, category, subcategory, name, url, data⟩
    simp [Issuance.mapTexts, Description.mapTexts, Wire.textsOf]
  cases payload with
  | issueFixed i amount => simpa [mapTexts, texts] using described i
  | issueCrowdsale i => simpa [mapTexts, texts] using described i
  | issueManaged i => simpa [mapTexts, texts] using described i
  | grant property amount memo => simp [mapTexts, texts]
  | revoke property amount memo => simp [mapTexts, texts]
  | _ => simp [mapTexts, texts]

end Payload

namespace Wire

/-- What is left of a text in its field. -/
def recut (value : String) : String := String.ofList (Utf8.cut maxText value.toList)

/-- A text that is read back as it was written: it fits into its field, or the cut goes through a
replacement character at its end. -/
def Lasting (value : String) : Prop := Utf8.Stays maxText value.toList

theorem recut_recut (value : String) : recut (recut value) = recut value := by
  rw [recut, recut, String.toList_ofList, Utf8.cut_cut]

theorem recut_eq_self_iff (value : String) : recut value = value ↔ Lasting value := by
  rw [Lasting, ← Utf8.cut_eq_self_iff, recut, ← String.toList_inj, String.toList_ofList]

/-- The bytes a text is written in are read as what is left of it. -/
theorem spells_recut {value : String} (clean : '\x00' ∉ value.toList) :
    Spells ((Utf8.encode value).take maxText) (recut value) where
  zeroless := fun member => Utf8.zero_notMem_encode clean (List.mem_of_mem_take member)
  short := List.length_take_le _ _
  reads := by rw [Utf8.decode, Utf8.encode, Utf8.decodeChars_take, recut]

theorem Spells.clean {raw : Bytes} {value : String} (spells : Spells raw value) :
    '\x00' ∉ value.toList := by
  rw [← spells.reads, Utf8.decode, String.toList_ofList]
  exact Utf8.zero_notMem_decodeChars spells.zeroless

theorem exists_spelling {raws : List Bytes} {values : List String}
    (spells : List.Forall₂ Spells raws values) {value : String} (member : value ∈ values) :
    ∃ raw ∈ raws, Spells raw value := by
  induction spells with
  | nil => cases member
  | cons first rest ih =>
      rcases List.mem_cons.mp member with rfl | later
      · exact ⟨_, List.mem_cons_self, first⟩
      · rcases ih later with ⟨raw, listed, spelled⟩
        exact ⟨raw, List.mem_cons_of_mem _ listed, spelled⟩

/-- A text whose bytes are UTF-8 lasts. -/
theorem Spells.lasting {raw : Bytes} {value : String} (spells : Spells raw value)
    (valid : ∃ source, Utf8.encode source = raw) : Lasting value := by
  rcases valid with ⟨source, rfl⟩
  rw [← spells.reads, Utf8.decode_encode]
  exact Or.inl spells.short

end Wire

/-! ## Messages -/

namespace Message

open Wire

/-- The message with what is left of its texts. -/
def recut (message : Message) : Message := ⟨message.version, message.payload.mapTexts Wire.recut⟩

variable {bytes : Bytes} {message : Message}

theorem recut_recut (message : Message) : message.recut.recut = message.recut := by
  have same : Wire.recut ∘ Wire.recut = Wire.recut := funext Wire.recut_recut
  rw [recut, recut, Payload.mapTexts_mapTexts, same]

theorem recut_eq_self_iff :
    message.recut = message ↔ ∀ value ∈ message.payload.texts, Lasting value := by
  rcases message with ⟨version, payload⟩
  rw [recut, Message.mk.injEq, and_iff_right rfl, Payload.mapTexts_eq_self_iff]
  exact forall₂_congr fun value _ => recut_eq_self_iff value

/-- A message without zero characters is read from its bytes with what is left of its texts. -/
theorem decode_encode_recut (supported : message.Supported)
    (clean : ∀ value ∈ message.payload.texts, '\x00' ∉ value.toList) :
    decode message.encode = .ok message.recut := by
  let raws := message.payload.texts.map fun value => (Utf8.encode value).take maxText
  have spells : List.Forall₂ Spells raws message.recut.payload.texts := by
    rw [recut, Payload.texts_mapTexts, List.forall₂_map_left_iff, List.forall₂_map_right_iff,
      List.forall₂_same]
    exact fun value member => spells_recut (clean value member)
  have terminates : terminated raws = message.payload.texts.flatMap text := by
    rw [terminated, List.flatMap_map]
    rfl
  have written : message.encode = message.recut.spelled raws := by
    rw [encode, body_eq, ← terminates, spelled, Wire.spelled, recut, Payload.messageType_mapTexts,
      Payload.leading_mapTexts, Payload.trailing_mapTexts]
  apply decode_eq_ok.mpr
  constructor
  · rw [Supported, recut, Payload.versions_mapTexts]
    exact supported
  · exact ⟨raws, [], spells, written.trans (List.append_nil _).symm⟩

/-- What was read can be written and read again. -/
theorem decode_encode_of_decode (read : decode bytes = .ok message) :
    decode message.encode = .ok message.recut := by
  rcases decode_eq_ok.mp read with ⟨supported, raws, rest, spells, _⟩
  apply decode_encode_recut supported
  intro value member
  rcases exists_spelling spells member with ⟨raw, _, spelled⟩
  exact spelled.clean

/-- A message that was read can be written and read again.  Its texts are then cut to their
fields, so it is the same message exactly if each of its texts fits into its field, or takes up to
two bytes more and ends with a replacement character; and it stays the same from then on.  Texts
that are spelled in UTF-8 fit. -/
theorem decode_encode_settles (read : decode bytes = .ok message) :
    decode message.encode = .ok message.recut ∧
    decode message.recut.encode = .ok message.recut ∧
    (message.recut = message ↔ ∀ value ∈ message.payload.texts, Lasting value) ∧
    ∀ raws, List.Forall₂ Spells raws message.payload.texts →
      (∀ raw ∈ raws, ∃ source, Utf8.encode source = raw) → message.recut = message := by
  have again := decode_encode_of_decode read
  have settled := decode_encode_of_decode again
  rw [recut_recut] at settled
  refine ⟨again, settled, recut_eq_self_iff, ?_⟩
  intro raws spells valid
  apply recut_eq_self_iff.mpr
  intro value member
  rcases exists_spelling spells member with ⟨raw, listed, spelled⟩
  exact spelled.lasting (valid raw listed)

/-- A grant with a memo of replacement characters. -/
def garbled (count : Nat) : Message :=
  ⟨0, .grant 3 7 (String.ofList (List.replicate count Utf8.replacement))⟩

/-- The field of the memo has room for 85 of its characters. -/
theorem recut_garbled : (garbled 86).recut = garbled 85 := by
  have characters : Utf8.cut maxText (List.replicate 86 Utf8.replacement) =
      List.replicate 85 Utf8.replacement := by
    decide +kernel
  rw [recut, garbled, Payload.mapTexts, Wire.recut, String.toList_ofList, characters, garbled]

/-- The bytes of a grant whose memo is not UTF-8. -/
def garbledBytes : Bytes :=
  [0, 0, 0, 55, 0, 0, 0, 3, 0, 0, 0, 0, 0, 0, 0, 7] ++ List.replicate 86 0xFF ++ [0]

/-- The memo is read as more replacement characters than its field has room for, and one is lost
when it is written. -/
theorem decode_encode_settles_garbled :
    decode garbledBytes = .ok (garbled 86) ∧
    decode (garbled 86).encode = .ok (garbled 86).recut ∧
    (garbled 86).recut = garbled 85 ∧
    decode (garbled 85).encode = .ok (garbled 85) ∧
    ∀ value ∈ (garbled 85).payload.texts, Lasting value := by
  have read : decode garbledBytes = .ok (garbled 86) := by decide +kernel
  have settles := decode_encode_settles read
  have again := settles.2.1
  rw [recut_garbled] at again
  have settled := decode_encode_settles again
  have stays : (garbled 85).recut = garbled 85 := Except.ok.inj (settled.1.symm.trans again)
  exact ⟨read, settles.1, recut_garbled, again, settled.2.2.1.mp stays⟩

/-- So it is not true that every message that was read is read again as it is. -/
theorem not_decode_encode :
    ¬ ∀ bytes message, decode bytes = .ok message → decode message.encode = .ok message := by
  intro stable
  have read : decode garbledBytes = .ok (garbled 86) := by decide +kernel
  have same := (stable _ _ read).symm.trans (decode_encode_of_decode read)
  rw [recut_garbled] at same
  exact absurd (Except.ok.inj same) (by decide +kernel)

end Message
end TokenOverlay
