import Mathlib.Algebra.Order.Field.Rat
import Mathlib.Data.List.Induction
import Mathlib.Data.Nat.Digits.Defs
import Mathlib.Tactic.FieldSimp
import Mathlib.Tactic.NormNum
import Mathlib.Tactic.Ring
import TokenOverlay.Amount
import TokenOverlay.Proofs.Fields

namespace TokenOverlay

/-!
What an amount text denotes.  A numeral is a row of digits with at most one
point in it, and stands for a rational number by its place values.  A text is
read as the amount that many smallest units make up; it is refused if no amount
does.  The text an amount is shown as denotes that amount.
-/

namespace Text

variable {chars : List Char}

/-! ## Place values -/

theorem digitsValue_eq_ofDigits (chars : List Char) :
    digitsValue chars = Nat.ofDigits 10 (chars.reverse.map fun c => c.toNat - 48) := by
  induction chars using List.reverseRecOn with
  | nil => rfl
  | append_singleton chars c ih =>
      rw [digitsValue_concat, List.reverse_concat, List.map_cons, Nat.ofDigits_cons, ih]
      exact Nat.add_comm _ _

theorem digitsValue_append (left right : List Char) :
    digitsValue (left ++ right) = digitsValue left * 10 ^ right.length + digitsValue right := by
  simp only [digitsValue_eq_ofDigits, List.reverse_append, List.map_append, Nat.ofDigits_append,
    List.length_map, List.length_reverse]
  ring

theorem digitsValue_zeros {zeros : List Char} (each : ∀ c ∈ zeros, c = '0') :
    digitsValue zeros = 0 := by
  induction zeros using List.reverseRecOn with
  | nil => rfl
  | append_singleton zeros c ih =>
      have last : c = '0' := each c (List.mem_append_right _ (List.mem_singleton_self c))
      rw [digitsValue_concat, last, ih fun c member => each c (List.mem_append_left _ member)]
      rfl

theorem length_digits_le {n places : Nat} (some : 0 < places) (below : n < 10 ^ places) :
    (digits n).length ≤ places := by
  induction n using digits.induct generalizing places with
  | case1 n small =>
      rw [digits, if_pos small]
      exact some
  | case2 n large ih =>
      obtain ⟨places, rfl⟩ : ∃ fewer, places = fewer + 1 := ⟨places - 1, by omega⟩
      have shorter : n / 10 < 10 ^ places := by
        rw [Nat.pow_succ] at below
        omega
      have more : 0 < places := by
        apply Nat.pos_of_ne_zero
        rintro rfl
        omega
      rw [digits, if_neg large, List.length_append]
      exact Nat.succ_le_succ (ih more shorter)

theorem ne_point_of_isDigit {c : Char} (digit : isDigit c = true) : c ≠ '.' := by
  rintro rfl
  revert digit
  decide

theorem not_isBlank_of_isDigit {c : Char} (digit : isDigit c = true) : isBlank c = false := by
  simp only [isDigit, Bool.and_eq_true, decide_eq_true_eq] at digit
  simp only [isBlank, Bool.or_eq_false_iff, Bool.and_eq_false_iff, beq_eq_false_iff_ne,
    decide_eq_false_iff_not]
  omega

theorem trimLeft_of_unblank (unblank : ∀ c ∈ chars, isBlank c = false) :
    trimLeft chars = chars := by
  cases chars with
  | nil => rfl
  | cons c rest =>
      have first : ¬ isBlank c = true := by
        rw [unblank c List.mem_cons_self]
        exact Bool.false_ne_true
      exact List.dropWhile_cons_of_neg first

/-- A text without white space is its own trimmed text. -/
theorem trimChars_of_unblank (unblank : ∀ c ∈ chars, isBlank c = false) :
    trimChars chars = chars := by
  rw [trimChars, trimLeft_of_unblank unblank,
    trimLeft_of_unblank fun c member => unblank c (List.mem_reverse.mp member),
    List.reverse_reverse]

end Text

namespace Amount

open Text (isDigit digitsValue digits)

/-! ## Numerals and what they denote -/

/-- How digits write a number: the digits before the point and those after it.  The point may
be left out behind the last digit, and one of the two rows may be empty. -/
inductive Numeral : List Char → List Char → List Char → Prop
  | plain {whole : List Char} (filled : whole ≠ []) (row : ∀ c ∈ whole, isDigit c = true) :
      Numeral whole whole []
  | pointed {whole fraction : List Char} (filled : whole ++ fraction ≠ [])
      (row : ∀ c ∈ whole ++ fraction, isDigit c = true) :
      Numeral (whole ++ '.' :: fraction) whole fraction

/-- The number that two rows of digits write, by the places of the digits. -/
def worth (whole fraction : List Char) : ℚ :=
  Nat.ofDigits (10 : ℚ) ((whole ++ fraction).reverse.map fun c => c.toNat - 48) /
    10 ^ fraction.length

/-- The smallest units in one whole token. -/
def scale (divisible : Bool) : ℚ := if divisible then 100000000 else 1

/-- The digits after the point that a kind of token has a place for: eight of any, or zeros. -/
def Places (divisible : Bool) (fraction : List Char) : Prop :=
  if divisible then fraction.length ≤ 8 else ∀ c ∈ fraction, c = '0'

/-- The smallest units of a numeral, counted in whole numbers. -/
def units (divisible : Bool) (whole fraction : List Char) : Nat :=
  if divisible then digitsValue whole * 100000000 + digitsValue (padRight fraction)
  else digitsValue whole

variable {chars whole fraction : List Char} {divisible : Bool} {raw : Int}

theorem worth_eq (whole fraction : List Char) :
    worth whole fraction =
      digitsValue whole + (digitsValue fraction : ℚ) / 10 ^ fraction.length := by
  have digits : Nat.ofDigits (10 : ℚ) ((whole ++ fraction).reverse.map fun c => c.toNat - 48) =
      (digitsValue whole * 10 ^ fraction.length + digitsValue fraction : Nat) := by
    rw [← Text.digitsValue_append, Text.digitsValue_eq_ofDigits, Nat.coe_ofDigits, Nat.cast_ofNat]
  rw [worth, digits]
  push_cast
  field_simp

theorem scale_pos (divisible : Bool) : 0 < scale divisible := by
  cases divisible <;> norm_num [scale]

theorem digitsValue_padRight (fraction : List Char) :
    digitsValue (padRight fraction) = digitsValue fraction * 10 ^ (8 - fraction.length) := by
  rw [padRight, Text.digitsValue_append, List.length_replicate,
    Text.digitsValue_zeros fun c member => List.eq_of_mem_replicate member, Nat.add_zero]

/-- Where every digit has its place, the units are the number in the scale of the token. -/
theorem worth_eq_units (places : Places divisible fraction) :
    worth whole fraction = units divisible whole fraction / scale divisible := by
  cases divisible with
  | false =>
      have zeros : digitsValue fraction = 0 := Text.digitsValue_zeros places
      simp [worth_eq, units, scale, zeros]
  | true =>
      have short : fraction.length ≤ 8 := places
      have power : (10 : ℚ) ^ (8 - fraction.length) * 10 ^ fraction.length = 100000000 := by
        rw [← pow_add, Nat.sub_add_cancel short]
        norm_num
      rw [worth_eq, units, if_pos rfl, scale, if_pos rfl, digitsValue_padRight, ← power]
      push_cast
      rw [← power]
      field_simp

/-- The units of a numeral are the only number that is worth as much. -/
theorem worth_eq_iff (places : Places divisible fraction) :
    worth whole fraction = raw / scale divisible ↔ raw = units divisible whole fraction := by
  have positive := scale_pos divisible
  rw [worth_eq_units places, div_left_inj' positive.ne']
  constructor
  · intro same
    exact_mod_cast same.symm
  · intro same
    exact_mod_cast same.symm

/-! ## Reading -/

/-- Digits come before the point. -/
theorem splitPoint_append (row : ∀ c ∈ whole, isDigit c = true) (rest : List Char) :
    splitPoint (whole ++ rest) = (whole ++ (splitPoint rest).1, (splitPoint rest).2) := by
  have pointless : ∀ c ∈ whole, decide (c ≠ '.') = true := fun c member =>
    decide_eq_true (Text.ne_point_of_isDigit (row c member))
  rw [splitPoint, splitPoint, List.takeWhile_append_of_pos pointless,
    List.dropWhile_append_of_pos pointless]

/-- Splitting at the point recovers the two rows of a numeral. -/
theorem numeral_iff :
    Numeral chars whole fraction ↔
      splitPoint chars = (whole, fraction) ∧ whole ++ fraction ≠ [] ∧
        ∀ c ∈ whole ++ fraction, isDigit c = true := by
  constructor
  · intro numeral
    cases numeral with
    | plain filled row =>
        have split := splitPoint_append row []
        rw [List.append_nil] at split ⊢
        exact ⟨split.trans (congrArg (·, []) (List.append_nil _)), filled, row⟩
    | pointed filled row =>
        have front : ∀ c ∈ whole, isDigit c = true := fun c member =>
          row c (List.mem_append_left _ member)
        have split := splitPoint_append front ('.' :: fraction)
        exact ⟨split.trans (congrArg (·, fraction) (List.append_nil _)), filled, row⟩
  · rintro ⟨split, filled, row⟩
    obtain ⟨front, behind⟩ := Prod.mk.inj split
    have parts : whole ++ chars.dropWhile (· ≠ '.') = chars := by
      rw [← front]
      exact List.takeWhile_append_dropWhile
    cases rest : chars.dropWhile (· ≠ '.') with
    | nil =>
        rw [rest] at parts behind
        obtain rfl : fraction = [] := behind.symm
        rw [List.append_nil] at parts filled row
        subst parts
        exact .plain filled row
    | cons c after =>
        have point : c = '.' := by
          have stopped := List.head?_dropWhile_not (fun c => decide (c ≠ '.')) chars
          rw [rest] at stopped
          simpa using stopped
        rw [rest] at parts behind
        obtain rfl : after = fraction := behind
        subst parts point
        exact .pointed filled row

/-- Only numerals are read. -/
theorem numeral_of_parseChars (read : parseChars chars divisible = some raw) :
    ∃ whole fraction, Numeral chars whole fraction := by
  cases split : splitPoint chars with
  | mk whole fraction =>
      apply Exists.intro whole
      apply Exists.intro fraction
      rw [numeral_iff]
      have rows : (!whole.all isDigit || !fraction.all isDigit) = false := by
        rw [← Bool.not_eq_true]
        intro odd
        simp only [parseChars, split, odd, if_true, reduceCtorEq] at read
      have some : (whole.isEmpty && fraction.isEmpty) = false := by
        rw [← Bool.not_eq_true]
        intro empty
        simp only [parseChars, split, rows, empty, if_true, Bool.false_eq_true, if_false,
          reduceCtorEq] at read
      simp only [Bool.or_eq_false_iff, Bool.not_eq_false', List.all_eq_true] at rows
      simp only [Bool.and_eq_false_iff, List.isEmpty_eq_false_iff] at some
      apply And.intro split
      apply And.intro
      · simpa [or_iff_not_imp_left] using some
      · intro c member
        exact (List.mem_append.mp member).elim (rows.1 c) (rows.2 c)

theorem fits_ofNat (n : Nat) : Fits n ↔ (n : Int) ≤ maxTokens := by
  unfold Fits least
  omega

/-- The two checked steps of the count fail only if the count itself is too large. -/
theorem counted_eq_some (whole part : Nat) :
    ((mul? whole coin).bind fun base => add? base part) = some raw ↔
      raw = (whole * 100000000 + part : Nat) ∧ raw ≤ maxTokens := by
  have product : (whole : Int) * coin = (whole * 100000000 : Nat) := by
    rw [Nat.cast_mul]
    rfl
  have sum : ((whole * 100000000 : Nat) : Int) + part = (whole * 100000000 + part : Nat) :=
    (Nat.cast_add _ _).symm
  by_cases small : ((whole * 100000000 : Nat) : Int) ≤ maxTokens
  · rw [mul?, product, if_pos ((fits_ofNat _).mpr small), Option.bind_some, add?_eq_some, sum,
      fits_ofNat]
    constructor
    · rintro ⟨rfl, below⟩
      exact ⟨rfl, below⟩
    · rintro ⟨rfl, below⟩
      exact ⟨rfl, below⟩
  · rw [mul?, product, if_neg (mt (fits_ofNat _).mp small), Option.bind_none]
    simp only [reduceCtorEq, false_iff, not_and]
    omega

/-- The units of a numeral are counted unless a digit has no place or there are too many. -/
theorem parseChars_of_numeral (numeral : Numeral chars whole fraction) :
    parseChars chars divisible = some raw ↔
      Places divisible fraction ∧ raw = units divisible whole fraction ∧ raw ≤ maxTokens := by
  obtain ⟨split, filled, row⟩ := numeral_iff.mp numeral
  have front : whole.all isDigit = true :=
    List.all_eq_true.mpr fun c member => row c (List.mem_append_left _ member)
  have behind : fraction.all isDigit = true :=
    List.all_eq_true.mpr fun c member => row c (List.mem_append_right _ member)
  have some : (whole.isEmpty && fraction.isEmpty) = false := by
    simpa using filled
  -- In both kinds a whole part that is too large by itself is refused first.
  simp only [parseChars, split, front, behind, some, fits_ofNat, Places, units, Bool.not_true,
    Bool.or_self, Bool.false_eq_true, if_false]
  by_cases small : (digitsValue whole : Int) ≤ maxTokens
  · rw [if_neg (not_not.mpr small)]
    cases divisible with
    | false =>
        by_cases zeros : ∀ c ∈ fraction, c = '0'
        · have row : fraction.all (· = '0') = true := by simpa using zeros
          simp only [Bool.not_false, if_true, row, Option.some.injEq]
          constructor
          · rintro rfl
            exact ⟨zeros, rfl, small⟩
          · rintro ⟨-, rfl, -⟩
            rfl
        · simp [zeros]
    | true =>
        by_cases short : fraction.length ≤ 8
        · simp [short, counted_eq_some, Nat.not_lt.mpr short]
        · simp [short, Nat.lt_of_not_le short]
  · rw [if_pos small]
    simp only [reduceCtorEq, false_iff, not_and]
    rintro - rfl
    cases divisible with
    | false => exact small
    | true =>
        simp only [if_true]
        omega

/-- A text is read as an amount exactly when its trimmed text is a numeral of that amount. -/
theorem parse_eq_some {text : String} :
    parse text divisible = some raw ↔
      ∃ whole fraction, Numeral (Text.trimChars text.toList) whole fraction ∧
        Places divisible fraction ∧ worth whole fraction = raw / scale divisible ∧
        0 ≤ raw ∧ raw ≤ maxTokens := by
  constructor
  · intro read
    obtain ⟨whole, fraction, numeral⟩ := numeral_of_parseChars read
    obtain ⟨places, counted, below⟩ := (parseChars_of_numeral numeral).mp read
    have positive : 0 ≤ raw := counted ▸ Int.natCast_nonneg _
    exact ⟨whole, fraction, numeral, places, (worth_eq_iff places).mpr counted, positive, below⟩
  · rintro ⟨whole, fraction, numeral, places, same, -, below⟩
    exact (parseChars_of_numeral numeral).mpr ⟨places, (worth_eq_iff places).mp same, below⟩

/-! ## Showing -/

theorem digitsValue_padLeft (row : List Char) : digitsValue (padLeft row) = digitsValue row := by
  rw [padLeft, Text.digitsValue_append,
    Text.digitsValue_zeros fun c member => List.eq_of_mem_replicate member, Nat.zero_mul,
    Nat.zero_add]

theorem length_padLeft {row : List Char} (short : row.length ≤ 8) : (padLeft row).length = 8 := by
  rw [padLeft, List.length_append, List.length_replicate]
  omega

theorem isDigit_of_mem_padLeft {n : Nat} {c : Char} (member : c ∈ padLeft (digits n)) :
    isDigit c = true := by
  rcases List.mem_append.mp member with zero | digit
  · rw [List.eq_of_mem_replicate zero]
    rfl
  · exact Text.isDigit_of_mem_digits digit

/-- The text of a size, whatever its sign. -/
theorem formatChars_eq (raw : Int) (divisible : Bool) :
    formatChars raw divisible =
      (if raw < 0 then ['-'] else []) ++ formatChars raw.natAbs divisible := by
  have unsigned : ¬ ((raw.natAbs : Int) < 0) := by omega
  unfold formatChars
  rw [if_neg unsigned, Int.natAbs_natCast]
  cases divisible with
  | false => rfl
  | true => exact List.append_assoc _ _ _

/-- The text of a size is a numeral of it, and every digit in it has its place. -/
theorem numeral_formatChars (n : Nat) (divisible : Bool) :
    ∃ whole fraction, Numeral (formatChars n divisible) whole fraction ∧
      Places divisible fraction ∧ units divisible whole fraction = n := by
  cases divisible with
  | false =>
      have shown : formatChars n false = digits n := by simp [formatChars]
      rw [shown]
      exact ⟨digits n, [],
        .plain (Text.digits_ne_nil n) (fun c member => Text.isDigit_of_mem_digits member),
        fun c member => absurd member List.not_mem_nil, Text.digitsValue_digits n⟩
  | true =>
      have shown : formatChars n true =
          digits (n / 100000000) ++ '.' :: padLeft (digits (n % 100000000)) := by
        simp [formatChars]
      have eight : (padLeft (digits (n % 100000000))).length = 8 :=
        length_padLeft (Text.length_digits_le (by decide) (Nat.mod_lt n (by decide)))
      rw [shown]
      apply Exists.intro (digits (n / 100000000))
      apply Exists.intro (padLeft (digits (n % 100000000)))
      apply And.intro
      · apply Numeral.pointed
        · exact List.append_ne_nil_of_left_ne_nil (Text.digits_ne_nil _) _
        · intro c member
          exact (List.mem_append.mp member).elim Text.isDigit_of_mem_digits isDigit_of_mem_padLeft
      · apply And.intro eight.le
        rw [units, if_pos rfl, digitsValue_padRight, eight, digitsValue_padLeft,
          Text.digitsValue_digits, Text.digitsValue_digits]
        omega

theorem Numeral.isDigit_or_point (numeral : Numeral chars whole fraction) {c : Char}
    (member : c ∈ chars) : isDigit c = true ∨ c = '.' := by
  cases numeral with
  | plain filled row => exact .inl (row c member)
  | pointed filled row =>
      rcases List.mem_append.mp member with front | behind
      · exact .inl (row c (List.mem_append_left _ front))
      · rcases List.mem_cons.mp behind with point | later
        · exact .inr point
        · exact .inl (row c (List.mem_append_right _ later))

theorem Numeral.trimChars_eq (numeral : Numeral chars whole fraction) :
    Text.trimChars chars = chars := by
  apply Text.trimChars_of_unblank
  intro c member
  rcases numeral.isDigit_or_point member with digit | rfl
  · exact Text.not_isBlank_of_isDigit digit
  · rfl

/-- What is shown of an amount is read as the amount. -/
theorem parse_format (positive : 0 ≤ raw) (below : raw ≤ maxTokens) (divisible : Bool) :
    parse (format raw divisible) divisible = some raw := by
  obtain ⟨n, rfl⟩ := Int.eq_ofNat_of_zero_le positive
  obtain ⟨whole, fraction, numeral, places, counted⟩ := numeral_formatChars n divisible
  rw [parse, format, String.toList_ofList, numeral.trimChars_eq, parseChars_of_numeral numeral,
    counted]
  exact ⟨places, rfl, below⟩

theorem minus_mem_formatChars (raw : Int) (divisible : Bool) :
    '-' ∈ formatChars raw divisible ↔ raw < 0 := by
  obtain ⟨whole, fraction, numeral, -, -⟩ := numeral_formatChars raw.natAbs divisible
  have unsigned : '-' ∉ formatChars raw.natAbs divisible := by
    intro member
    rcases numeral.isDigit_or_point member with digit | point
    · exact absurd digit (by decide)
    · exact absurd point (by decide)
  rw [formatChars_eq, List.mem_append, or_iff_left unsigned]
  by_cases negative : raw < 0
  · simp [negative]
  · simp [negative]

theorem formatChars_ofNat_inj {n m : Nat}
    (same : formatChars n divisible = formatChars m divisible) : n = m := by
  obtain ⟨whole, fraction, numeral, -, rfl⟩ := numeral_formatChars n divisible
  obtain ⟨whole', fraction', numeral', -, rfl⟩ := numeral_formatChars m divisible
  rw [same] at numeral
  have parts := (numeral_iff.mp numeral).1.symm.trans (numeral_iff.mp numeral').1
  obtain ⟨rfl, rfl⟩ := Prod.mk.inj parts
  rfl

/-- Different amounts are shown differently, the least one and unsigned sizes included. -/
theorem format_injective (divisible : Bool) :
    Function.Injective fun raw => format raw divisible := by
  intro raw other same
  have chars : formatChars raw divisible = formatChars other divisible := by
    have texts := congrArg String.toList same
    simpa only [format, String.toList_ofList] using texts
  have signs : raw < 0 ↔ other < 0 := by
    rw [← minus_mem_formatChars raw divisible, chars, minus_mem_formatChars]
  rw [formatChars_eq raw, formatChars_eq other] at chars
  simp only [signs] at chars
  have sizes := formatChars_ofNat_inj (List.append_cancel_left chars)
  omega

/-- Amounts and their texts: a text is read as the amount its numeral denotes and otherwise
refused, what is shown of an amount is read as that amount, and no two amounts are shown
alike. -/
theorem text_denotes (divisible : Bool) :
    (∀ text raw, parse text divisible = some raw ↔
      ∃ whole fraction, Numeral (Text.trimChars text.toList) whole fraction ∧
        Places divisible fraction ∧ worth whole fraction = raw / scale divisible ∧
        0 ≤ raw ∧ raw ≤ maxTokens) ∧
    (∀ raw, 0 ≤ raw → raw ≤ maxTokens → parse (format raw divisible) divisible = some raw) ∧
    Function.Injective fun raw => format raw divisible :=
  ⟨fun _ _ => parse_eq_some, fun _ positive below => parse_format positive below divisible,
    format_injective divisible⟩

/-- Half a token between blanks, the largest amount, and the least one beside it. -/
theorem text_denotes_extremes :
    (∃ whole fraction, Numeral ['.', '5'] whole fraction ∧
      worth whole fraction = (50000000 : Int) / scale true) ∧
    parse (format maxTokens true) true = some maxTokens ∧
    format least false ≠ format maxTokens false := by
  have trimmed : Text.trimChars " .5 ".toList = ['.', '5'] := by decide +kernel
  have read : parse " .5 " true = some 50000000 := by decide +kernel
  have apart : least ≠ maxTokens := by decide
  obtain ⟨whole, fraction, numeral, -, same, -⟩ := ((text_denotes true).1 " .5 " 50000000).mp read
  rw [trimmed] at numeral
  exact ⟨⟨whole, fraction, numeral, same⟩,
    (text_denotes true).2.1 maxTokens (by decide) (by decide), (text_denotes false).2.2.ne apart⟩

end Amount
end TokenOverlay
