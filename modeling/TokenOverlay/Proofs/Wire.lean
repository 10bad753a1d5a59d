import TokenOverlay.Payload.Wire
import TokenOverlay.Proofs.Utf8
import Mathlib.Algebra.Group.Nat.Defs
import Mathlib.Data.List.Forall2
import Mathlib.Data.List.Induction

namespace TokenOverlay
namespace Wire

/-!
What each reader takes from the front of the bytes that are left.  For every
reader there is one equivalence: it gives a value exactly when the bytes start
with that value as it is written, and then it stops right behind them.
-/

/-! ## Numbers -/

/-- The number that bytes make, most significant byte first. -/
def magnitude (bytes : Bytes) : Nat := bytes.foldl (fun n byte => 256 * n + byte.toNat) 0

theorem magnitude_concat (bytes : Bytes) (last : UInt8) :
    magnitude (bytes ++ [last]) = 256 * magnitude bytes + last.toNat :=
  List.foldl_append

theorem length_bigEndian (width n : Nat) : (bigEndian width n).length = width := by
  induction width generalizing n with
  | zero => rfl
  | succ width ih => rw [bigEndian, List.length_append, ih, List.length_singleton]

theorem magnitude_bigEndian {width n : Nat} (bound : n < 256 ^ width) :
    magnitude (bigEndian width n) = n := by
  induction width generalizing n with
  | zero =>
      rw [Nat.pow_zero, Nat.lt_one_iff] at bound
      rw [bound, bigEndian, magnitude, List.foldl_nil]
  | succ width ih =>
      have high : n / 256 < 256 ^ width := Nat.div_lt_of_lt_mul (by rwa [Nat.pow_succ'] at bound)
      have low : (UInt8.ofNat n).toNat = n % 256 := rfl
      rw [bigEndian, magnitude_concat, ih high, low, Nat.div_add_mod]

/-- Bytes are all that is known of them but their number, so they are written back. -/
theorem bigEndian_magnitude (bytes : Bytes) :
    bigEndian bytes.length (magnitude bytes) = bytes ∧ magnitude bytes < 256 ^ bytes.length := by
  induction bytes using List.reverseRecOn with
  | nil => exact ⟨rfl, Nat.one_pos⟩
  | append_singleton front last ih =>
      have byte : last.toNat < 256 := last.toNat_lt
      have high : (256 * magnitude front + last.toNat) / 256 = magnitude front := by omega
      have low : UInt8.ofNat (256 * magnitude front + last.toNat) = last := by
        rw [← UInt8.toNat_inj]
        change (256 * magnitude front + last.toNat) % 256 = last.toNat
        omega
      rw [magnitude_concat, List.length_append, List.length_singleton, bigEndian, high, low, ih.1,
        Nat.pow_succ']
      exact ⟨rfl, by omega⟩

end Wire

namespace Wire.Cursor

/-- From the one cursor to the other, exactly these bytes are passed. -/
structure Passes (cursor : Cursor) (front : Bytes) (after : Cursor) : Prop where
  bytes : cursor.rest = front ++ after.rest
  offset : after.offset = cursor.offset + front.length

variable {cursor between after : Cursor} {front back : Bytes}

theorem passes_nil : cursor.Passes [] after ↔ after = cursor := by
  constructor
  · rintro ⟨bytes, offset⟩
    exact congrArg₂ mk offset bytes.symm
  · rintro rfl
    exact ⟨rfl, rfl⟩

theorem Passes.append (first : cursor.Passes front between) (second : between.Passes back after) :
    cursor.Passes (front ++ back) after where
  bytes := by rw [first.bytes, second.bytes, List.append_assoc]
  offset := by rw [second.offset, first.offset, List.length_append, Nat.add_assoc]

theorem passes_append :
    cursor.Passes (front ++ back) after ↔
      ∃ between, cursor.Passes front between ∧ between.Passes back after := by
  constructor
  · intro passes
    refine ⟨⟨cursor.offset + front.length, back ++ after.rest⟩, ⟨?_, rfl⟩, ⟨rfl, ?_⟩⟩
    · rw [passes.bytes, List.append_assoc]
    · rw [passes.offset, List.length_append, Nat.add_assoc]
  · rintro ⟨between, first, second⟩
    exact first.append second

end Wire.Cursor

namespace Wire

variable {α β : Type} {cursor after : Cursor}

theorem bind_eq_ok {reader : Reader α} {next : α → Reader β} {value : β} :
    (reader >>= next) cursor = .ok (value, after) ↔
      ∃ first between, reader cursor = .ok (first, between) ∧
        next first between = .ok (value, after) := by
  change (reader cursor >>= fun passed => next passed.1 passed.2) = _ ↔ _
  rcases reader cursor with reason | ⟨first, between⟩
  · constructor
    · intro impossible
      cases impossible
    · rintro ⟨first, between, impossible, -⟩
      cases impossible
  · constructor
    · exact fun rest => ⟨first, between, rfl, rest⟩
    · rintro ⟨first', between', same, rest⟩
      cases same
      exact rest

theorem pure_eq_ok {first value : α} :
    (pure first : Reader α) cursor = .ok (value, after) ↔ value = first ∧ after = cursor := by
  change Except.ok (first, cursor) = .ok (value, after) ↔ _
  rw [Except.ok.injEq, Prod.mk.injEq, eq_comm, @eq_comm _ cursor]

theorem readNumber_eq_ok {width n : Nat} {field : String} :
    readNumber width field cursor = .ok (n, after) ↔
      n < 256 ^ width ∧ cursor.Passes (bigEndian width n) after := by
  unfold readNumber
  constructor
  · intro read
    split at read
    · next enough =>
        have length : (cursor.rest.take width).length = width := List.length_take_of_le enough
        have written := bigEndian_magnitude (cursor.rest.take width)
        rw [length] at written
        cases read
        refine ⟨written.2, ?_, ?_⟩
        · exact (List.take_append_drop width cursor.rest).symm.trans
            (congrArg (· ++ _) written.1.symm)
        · rw [length_bigEndian]
    · cases read
  · rintro ⟨bound, passes⟩
    have length := length_bigEndian width n
    have taken : cursor.rest.take width = bigEndian width n := by
      rw [passes.bytes, List.take_left' length]
    have dropped : cursor.rest.drop width = after.rest := by
      rw [passes.bytes, List.drop_left' length]
    have enough : width ≤ cursor.rest.length := by
      rw [passes.bytes, List.length_append, length]
      exact Nat.le_add_right width after.rest.length
    have value := magnitude_bigEndian bound
    have offset := passes.offset
    rw [length] at offset
    rw [magnitude] at value
    rw [if_pos enough, taken, dropped, value, ← offset]

/-- A number type whose values are the numbers of a width in bytes is read from just its bytes. -/
theorem readAs_eq_ok {width : Nat} {field : String} {ofNat : Nat → α} {toNat : α → Nat}
    (fits : ∀ value, toNat value < 256 ^ width) (ofNat_toNat : ∀ value, ofNat (toNat value) = value)
    (toNat_ofNat : ∀ n < 256 ^ width, toNat (ofNat n) = n) {value : α} :
    (do return ofNat (← readNumber width field) : Reader α) cursor = .ok (value, after) ↔
      cursor.Passes (bigEndian width (toNat value)) after := by
  rw [bind_eq_ok]
  constructor
  · rintro ⟨n, between, read, result⟩
    rcases pure_eq_ok.mp result with ⟨rfl, rfl⟩
    rcases readNumber_eq_ok.mp read with ⟨bound, passes⟩
    rwa [toNat_ofNat n bound]
  · intro passes
    exact ⟨toNat value, after, readNumber_eq_ok.mpr ⟨fits value, passes⟩,
      pure_eq_ok.mpr ⟨(ofNat_toNat value).symm, rfl⟩⟩

variable {field : String}

theorem readUInt8_eq_ok {value : UInt8} :
    readUInt8 field cursor = .ok (value, after) ↔ cursor.Passes (uint8 value) after := by
  have written : uint8 value = bigEndian 1 value.toNat := by
    rw [bigEndian, bigEndian, UInt8.ofNat_toNat, List.nil_append, uint8]
  rw [written]
  exact readAs_eq_ok UInt8.toNat_lt (fun _ => UInt8.ofNat_toNat) (fun _ => UInt8.toNat_ofNat_of_lt')

theorem readUInt16_eq_ok {value : UInt16} :
    readUInt16 field cursor = .ok (value, after) ↔ cursor.Passes (uint16 value) after :=
  readAs_eq_ok UInt16.toNat_lt (fun _ => UInt16.ofNat_toNat) (fun _ => UInt16.toNat_ofNat_of_lt')

theorem readUInt32_eq_ok {value : UInt32} :
    readUInt32 field cursor = .ok (value, after) ↔ cursor.Passes (uint32 value) after :=
  readAs_eq_ok UInt32.toNat_lt (fun _ => UInt32.ofNat_toNat) (fun _ => UInt32.toNat_ofNat_of_lt')

theorem readUInt64_eq_ok {value : UInt64} :
    readUInt64 field cursor = .ok (value, after) ↔ cursor.Passes (uint64 value) after :=
  readAs_eq_ok UInt64.toNat_lt (fun _ => UInt64.ofNat_toNat) (fun _ => UInt64.toNat_ofNat_of_lt')

theorem toByte_of_ofByte {byte : UInt8} {action : OfferAction}
    (named : OfferAction.ofByte byte = some action) : action.toByte = byte := by
  unfold OfferAction.ofByte at named
  split at named <;> cases named <;> rfl

theorem readAction_eq_ok {action : OfferAction} :
    readAction cursor = .ok (action, after) ↔ cursor.Passes (uint8 action.toByte) after := by
  unfold readAction
  rw [bind_eq_ok]
  constructor
  · rintro ⟨byte, between, read, result⟩
    have passes := readUInt8_eq_ok.mp read
    cases named : OfferAction.ofByte byte with
    | none =>
        rw [named] at result
        cases result
    | some found =>
        rw [named] at result
        rcases pure_eq_ok.mp result with ⟨rfl, rfl⟩
        rwa [toByte_of_ofByte named]
  · intro passes
    apply Exists.intro action.toByte
    apply Exists.intro after
    rw [OfferAction.ofByte_toByte]
    exact ⟨readUInt8_eq_ok.mpr passes, rfl⟩

/-! ## Texts -/

/-- Bytes that are read as a text: they are its own bytes if they are UTF-8 at all. -/
structure Spells (raw : Bytes) (value : String) : Prop where
  zeroless : (0 : UInt8) ∉ raw
  short : raw.length ≤ maxText
  reads : Utf8.decode raw = value

/-- A text that is written whole and is not taken to end early. -/
structure Writable (value : String) : Prop where
  zeroless : '\x00' ∉ value.toList
  short : (Utf8.encode value).length ≤ maxText

/-- The bytes of texts, each with a zero byte behind it. -/
def terminated (raws : List Bytes) : Bytes := raws.flatMap (· ++ [0])

theorem terminated_nil : terminated [] = [] := rfl

theorem terminated_cons (raw : Bytes) (raws : List Bytes) :
    terminated (raw :: raws) = (raw ++ [0]) ++ terminated raws := List.flatMap_cons

theorem Writable.spells {value : String} (writable : Writable value) :
    Spells (Utf8.encode value) value where
  zeroless := Utf8.zero_notMem_encode writable.zeroless
  short := writable.short
  reads := Utf8.decode_encode value

theorem text_of_short {value : String} (short : (Utf8.encode value).length ≤ maxText) :
    text value = Utf8.encode value ++ [0] := by
  rw [text, List.take_of_length_le short]

theorem Spells.text_eq {raw : Bytes} {value : String} (spells : Spells raw value)
    (valid : ∃ source, Utf8.encode source = raw) : text value = raw ++ [0] := by
  rcases valid with ⟨source, rfl⟩
  rw [← spells.reads, Utf8.decode_encode, text_of_short spells.short]

theorem takeWhile_zeroless {raw : Bytes} (zeroless : (0 : UInt8) ∉ raw) (rest : Bytes) :
    (raw ++ 0 :: rest).takeWhile (· ≠ 0) = raw := by
  have nonzero : ∀ byte ∈ raw, decide (byte ≠ 0) = true := by
    intro byte member
    apply decide_eq_true
    rintro rfl
    exact zeroless member
  rw [List.takeWhile_append_of_pos nonzero, List.takeWhile_cons_of_neg (by decide),
    List.append_nil]

/-- Bytes with a zero byte are those before the first one, and the rest behind it. -/
theorem takeWhile_zero {bytes : Bytes}
    (stops : (bytes.takeWhile (· ≠ 0)).length ≠ bytes.length) :
    bytes = bytes.takeWhile (· ≠ 0) ++
      0 :: bytes.drop ((bytes.takeWhile (· ≠ 0)).length + 1) := by
  induction bytes with
  | nil => exact absurd rfl stops
  | cons byte rest ih =>
      by_cases zero : byte = 0
      · subst zero
        rfl
      · have passed : (byte :: rest).takeWhile (· ≠ 0) = byte :: rest.takeWhile (· ≠ 0) :=
          List.takeWhile_cons_of_pos (decide_eq_true zero)
        rw [passed] at stops ⊢
        simp only [List.length_cons, ne_eq, Nat.add_right_cancel_iff] at stops
        exact congrArg (byte :: ·) (ih stops)

theorem readTextBytes_eq_ok {raw : Bytes} :
    readTextBytes field cursor = .ok (raw, after) ↔
      (0 : UInt8) ∉ raw ∧ raw.length ≤ maxText ∧ cursor.Passes (raw ++ [0]) after := by
  unfold readTextBytes
  constructor
  · intro read
    dsimp only at read
    split at read
    · cases read
    · next short =>
        split at read
        · cases read
        · next fits =>
            have bytes := takeWhile_zero short
            have nonzero : ∀ byte ∈ cursor.rest.takeWhile (· ≠ 0), decide (byte ≠ 0) = true :=
              List.all_eq_true.mp List.all_takeWhile
            cases read
            refine ⟨fun member => ?_, Nat.not_lt.mp fits, ?_, ?_⟩
            · exact of_decide_eq_true (nonzero 0 member) rfl
            · rw [List.append_assoc, List.singleton_append]
              exact bytes
            · rw [List.length_append, List.length_singleton, Nat.add_assoc]
  · rintro ⟨zeroless, short, passes⟩
    have bytes : cursor.rest = raw ++ 0 :: after.rest := by
      rw [passes.bytes, List.append_assoc, List.singleton_append]
    have offset : cursor.offset + raw.length + 1 = after.offset := by
      rw [passes.offset, List.length_append, List.length_singleton, Nat.add_assoc]
    have taken : cursor.rest.takeWhile (· ≠ 0) = raw := by
      rw [bytes, takeWhile_zeroless zeroless]
    have dropped : cursor.rest.drop (raw.length + 1) = after.rest := by
      rw [passes.bytes]
      exact List.drop_left' List.length_append
    have terminates : raw.length ≠ cursor.rest.length := by
      rw [bytes, List.length_append, List.length_cons]
      omega
    dsimp only
    rw [taken, if_neg terminates, if_neg (Nat.not_lt.mpr short), dropped, offset]

theorem readText_eq_ok {value : String} :
    readText field cursor = .ok (value, after) ↔
      ∃ raw, Spells raw value ∧ cursor.Passes (raw ++ [0]) after := by
  unfold readText
  rw [bind_eq_ok]
  constructor
  · rintro ⟨raw, between, read, result⟩
    rcases pure_eq_ok.mp result with ⟨rfl, rfl⟩
    rcases readTextBytes_eq_ok.mp read with ⟨zeroless, short, passes⟩
    exact ⟨raw, ⟨zeroless, short, rfl⟩, passes⟩
  · rintro ⟨raw, spells, passes⟩
    exact ⟨raw, after, readTextBytes_eq_ok.mpr ⟨spells.zeroless, spells.short, passes⟩,
      pure_eq_ok.mpr ⟨spells.reads.symm, rfl⟩⟩

/-! ## Fields in common -/

/-- The texts of a description, in the order they are written in. -/
def textsOf (d : Description) : List String := [d.category, d.subcategory, d.name, d.url, d.data]

theorem readDescription_eq_ok {d : Description} :
    readDescription cursor = .ok (d, after) ↔
      ∃ raws, List.Forall₂ Spells raws (textsOf d) ∧ cursor.Passes (terminated raws) after := by
  unfold readDescription
  simp only [bind_eq_ok, pure_eq_ok, readText_eq_ok]
  constructor
  · rintro ⟨category, c₁, ⟨raw₁, spells₁, passes₁⟩, subcategory, c₂, ⟨raw₂, spells₂, passes₂⟩,
      name, c₃, ⟨raw₃, spells₃, passes₃⟩, url, c₄, ⟨raw₄, spells₄, passes₄⟩,
      data, c₅, ⟨raw₅, spells₅, passes₅⟩, rfl, rfl⟩
    refine ⟨[raw₁, raw₂, raw₃, raw₄, raw₅], ?_, ?_⟩
    · exact .cons spells₁ (.cons spells₂ (.cons spells₃ (.cons spells₄ (.cons spells₅ .nil))))
    · simp only [terminated_cons, terminated_nil, List.append_nil]
      exact passes₁.append (passes₂.append (passes₃.append (passes₄.append passes₅)))
  · rintro ⟨raws, spells, passes⟩
    rcases spells with
      _ | ⟨spells₁, _ | ⟨spells₂, _ | ⟨spells₃, _ | ⟨spells₄, _ | ⟨spells₅, _ | _⟩⟩⟩⟩⟩
    rw [terminated_cons, terminated_cons, terminated_cons, terminated_cons, terminated_cons,
      terminated_nil, List.append_nil] at passes
    rcases Cursor.passes_append.mp passes with ⟨c₁, passes₁, passes⟩
    rcases Cursor.passes_append.mp passes with ⟨c₂, passes₂, passes⟩
    rcases Cursor.passes_append.mp passes with ⟨c₃, passes₃, passes⟩
    rcases Cursor.passes_append.mp passes with ⟨c₄, passes₄, passes₅⟩
    exact ⟨_, c₁, ⟨_, spells₁, passes₁⟩, _, c₂, ⟨_, spells₂, passes₂⟩, _, c₃, ⟨_, spells₃, passes₃⟩,
      _, c₄, ⟨_, spells₄, passes₄⟩, _, after, ⟨_, spells₅, passes₅⟩, rfl, rfl⟩

/-- The fields of an issuance before its texts. -/
def issuanceHead (i : Issuance) : Bytes :=
  uint8 i.ecosystem ++ uint16 i.propertyType ++ uint32 i.previousProperty

theorem readIssuance_eq_ok {i : Issuance} :
    readIssuance cursor = .ok (i, after) ↔
      ∃ raws, List.Forall₂ Spells raws (textsOf i.description) ∧
        cursor.Passes (issuanceHead i ++ terminated raws) after := by
  unfold readIssuance
  simp only [bind_eq_ok, pure_eq_ok, readUInt8_eq_ok, readUInt16_eq_ok, readUInt32_eq_ok,
    readDescription_eq_ok]
  constructor
  · rintro ⟨ecosystem, c₁, passes₁, propertyType, c₂, passes₂, previous, c₃, passes₃,
      description, c₄, ⟨raws, spells, passes₄⟩, rfl, rfl⟩
    exact ⟨raws, spells, ((passes₁.append passes₂).append passes₃).append passes₄⟩
  · rintro ⟨raws, spells, passes⟩
    simp only [issuanceHead, Cursor.passes_append] at passes
    rcases passes with ⟨c₃, ⟨c₂, ⟨c₁, passes₁, passes₂⟩, passes₃⟩, passes₄⟩
    exact ⟨_, c₁, passes₁, _, c₂, passes₂, _, c₃, passes₃, _, after, ⟨raws, spells, passes₄⟩,
      rfl, rfl⟩

end Wire
end TokenOverlay
