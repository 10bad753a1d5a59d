import TokenOverlay.Proofs.Recoding

namespace TokenOverlay

/-!
Texts that are too long for their field.  A text is cut after a number of
bytes, wherever that falls.  What is read back is the longest front of the text
that fits, and a replacement character behind it if the cut went through a
character.
-/

namespace Utf8

/-- The longest front of some characters that takes at most so many bytes. -/
structure Fitting (n : Nat) (chars front : List Char) : Prop where
  leads : front <+: chars
  fits : width front ≤ n
  longest : ∀ other, other <+: chars → width other ≤ n → other <+: front

variable {n : Nat} {c : Char} {chars rest front other : List Char}

theorem width_le_of_prefix (before : front <+: other) : width front ≤ width other := by
  obtain ⟨more, rfl⟩ := before
  rw [width, width, List.flatMap_append, List.length_append]
  exact Nat.le_add_right _ _

namespace Fitting

/-- A character that fits belongs to the longest front. -/
theorem cons (fits : (String.utf8EncodeChar c).length ≤ n)
    (fitting : Fitting (n - (String.utf8EncodeChar c).length) rest front) :
    Fitting n (c :: rest) (c :: front) where
  leads := List.cons_prefix_cons.mpr ⟨rfl, fitting.leads⟩
  fits := by
    have bound := fitting.fits
    rw [width_cons]
    omega
  longest := by
    intro other before bound
    cases other with
    | nil => exact List.nil_prefix
    | cons d others =>
        obtain ⟨rfl, within⟩ := List.cons_prefix_cons.mp before
        rw [width_cons] at bound
        exact List.cons_prefix_cons.mpr ⟨rfl, fitting.longest others within (by omega)⟩

/-- Nothing fits in front of a character that does not. -/
theorem nil_of_over (exceeds : n < (String.utf8EncodeChar c).length) :
    Fitting n (c :: rest) [] where
  leads := List.nil_prefix
  fits := Nat.zero_le n
  longest := by
    intro other before bound
    cases other with
    | nil => exact List.nil_prefix
    | cons d others =>
        obtain ⟨rfl, -⟩ := List.cons_prefix_cons.mp before
        rw [width_cons] at bound
        omega

end Fitting

/-- Characters are cut to the longest front that fits, with a replacement character behind it if
there is more of them and room is left. -/
theorem cut_eq_fitting (n : Nat) (chars : List Char) :
    ∃ front, Fitting n chars front ∧
      cut n chars = if front = chars ∨ width front = n then front else front ++ [replacement] := by
  induction chars generalizing n with
  | nil =>
      have whole : Fitting n [] [] := ⟨List.prefix_rfl, Nat.zero_le n, fun _ before _ => before⟩
      exact ⟨[], whole, rfl⟩
  | cons c rest ih =>
      by_cases fits : (String.utf8EncodeChar c).length ≤ n
      · obtain ⟨front, fitting, same⟩ := ih (n - (String.utf8EncodeChar c).length)
        have room : width front = n - (String.utf8EncodeChar c).length ↔
            width (c :: front) = n := by
          rw [width_cons]
          omega
        refine ⟨c :: front, fitting.cons fits, ?_⟩
        rw [cut, if_pos fits, same]
        simp only [room, List.cons.injEq, true_and, List.cons_append, apply_ite (c :: ·)]
      · refine ⟨[], .nil_of_over (Nat.lt_of_not_le fits), ?_⟩
        rw [cut, if_neg fits, width_nil]
        simp only [reduceCtorEq, false_or, List.nil_append, eq_comm]

/-- What is left of characters is a front of them that fits exactly if they fit, or if one of
their fronts fills the room. -/
theorem cut_prefix_iff (n : Nat) (chars : List Char) :
    cut n chars <+: chars ∧ width (cut n chars) ≤ n ↔
      width chars ≤ n ∨ ∃ front, front <+: chars ∧ width front = n := by
  obtain ⟨front, fitting, same⟩ := cut_eq_fitting n chars
  rw [same]
  constructor
  · rintro ⟨leads, fits⟩
    split at leads
    · next settled =>
        rcases settled with rfl | full
        · exact .inl fitting.fits
        · exact .inr ⟨front, fitting.leads, full⟩
    · next unsettled =>
        rw [if_neg unsettled] at fits
        have longer := (fitting.longest _ leads fits).length_le
        rw [List.length_append, List.length_singleton] at longer
        omega
  · intro roomy
    have settled : front = chars ∨ width front = n := by
      rcases roomy with fits | ⟨other, leads, full⟩
      · have whole := fitting.longest chars List.prefix_rfl fits
        exact .inl (fitting.leads.eq_of_length_le whole.length_le)
      · have least := width_le_of_prefix (fitting.longest other leads (Nat.le_of_eq full))
        exact .inr (Nat.le_antisymm fitting.fits (full ▸ least))
    rw [if_pos settled]
    exact ⟨fitting.leads, fitting.fits⟩

end Utf8

namespace Message

open Wire Utf8

variable {message : Message}

/-- Texts of any length can be written and read again.  Each is read as the longest front of it
that takes at most 255 bytes; if more of the text follows and the front takes fewer bytes than
that, a replacement character stands behind it.  So a text is read as a front of itself of at
most 255 bytes exactly if it takes no more bytes, or one of its fronts takes exactly 255. -/
theorem decode_encode_cuts (supported : message.Supported)
    (clean : ∀ value ∈ message.payload.texts, '\x00' ∉ value.toList) :
    decode message.encode = .ok ⟨message.version, message.payload.mapTexts Wire.recut⟩ ∧
    ∀ value : String,
      (∃ front, Fitting maxText value.toList front ∧
        (Wire.recut value).toList =
          if front = value.toList ∨ width front = maxText then front
          else front ++ [replacement]) ∧
      ((Wire.recut value).toList <+: value.toList ∧ width (Wire.recut value).toList ≤ maxText ↔
        width value.toList ≤ maxText ∨
          ∃ front, front <+: value.toList ∧ width front = maxText) := by
  refine ⟨decode_encode_recut supported clean, fun value => ?_⟩
  rw [Wire.recut, String.toList_ofList]
  exact ⟨cut_eq_fitting maxText value.toList, cut_prefix_iff maxText value.toList⟩

/-- A text with a character across the end of its field. -/
def accents : String := String.ofList (List.replicate 128 'é')

theorem toList_accents : accents.toList = List.replicate 128 'é' := String.toList_ofList

theorem recut_accents :
    Wire.recut accents = String.ofList (List.replicate 127 'é' ++ [replacement]) := by
  have left : Utf8.cut maxText (List.replicate 128 'é') =
      List.replicate 127 'é' ++ [replacement] := by
    decide +kernel
  rw [Wire.recut, toList_accents, left]

/-- A grant with that memo. -/
def accented : Message := ⟨0, .grant 3 7 accents⟩

theorem accented_supported : accented.Supported := List.mem_singleton_self _

theorem accented_clean : ∀ value ∈ accented.payload.texts, '\x00' ∉ value.toList := by
  intro value member
  rw [List.mem_singleton.mp member, toList_accents]
  exact fun zero => absurd (List.eq_of_mem_replicate zero) (by decide)

/-- The last character of the memo that is read is a replacement character. -/
theorem decode_encode_cuts_accented :
    accented.Supported ∧ (∀ value ∈ accented.payload.texts, '\x00' ∉ value.toList) ∧
      decode accented.encode =
        .ok ⟨0, .grant 3 7 (String.ofList (List.replicate 127 'é' ++ [replacement]))⟩ := by
  have read := (decode_encode_cuts accented_supported accented_clean).1
  rw [accented, Payload.mapTexts, recut_accents] at read
  exact ⟨accented_supported, accented_clean, read⟩

/-- So it is not true that every text is read as a front of itself. -/
theorem not_decode_encode_front :
    ¬ ∀ message : Message, message.Supported →
      (∀ value ∈ message.payload.texts, '\x00' ∉ value.toList) →
      ∃ change : String → String,
        decode message.encode = .ok ⟨message.version, message.payload.mapTexts change⟩ ∧
        ∀ value ∈ message.payload.texts,
          (change value).toList <+: value.toList ∧ width (change value).toList ≤ maxText := by
  intro fronts
  obtain ⟨change, read, front⟩ := fronts accented accented_supported accented_clean
  have same := (decode_encode_recut accented_supported accented_clean).symm.trans read
  have memo : Wire.recut accents = change accents :=
    (Payload.grant.inj (congrArg Message.payload (Except.ok.inj same))).2.2
  have leads := (front accents (List.mem_singleton_self _)).1
  rw [← memo, recut_accents, toList_accents, String.toList_ofList] at leads
  have strange := leads.subset (List.mem_append_right _ (List.mem_singleton_self replacement))
  exact absurd (List.eq_of_mem_replicate strange) (by decide)

end Message
end TokenOverlay
