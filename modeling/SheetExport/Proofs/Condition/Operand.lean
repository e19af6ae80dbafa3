/-
**Numbers in the text of a condition.**

A number is `Writable` if it is finite, and integral or at least one ten-thousandth in magnitude.
Its text is then a plain numeral of a number that equals it (`numberText_of_writable`); every other
number has a text that begins with no such numeral, or goes on behind it
(`numberText_of_not_writable`).
-/

import SheetExport.Condition.Tree
import SheetExport.Number.Exact
import SheetExport.Proofs.Number.Positional
import SheetExport.Proofs.Number.Shortest

namespace SheetExport.Condition

open Binary64 (unpacked signOf quotient_eq unpacked_eq_finite)
open Float.Model (UnpackedFloat)
open Float.Model.UnpackedFloat (Sign)

/-! ### Signs -/

section Signs

variable {x y : Float} {b : Binary}

theorem quotient_den_pos (b : Binary) : 0 < b.quotient.2 :=
  Nat.pow_pos (by decide)

theorem quotient_num_zero (none : b.mantissa = 0) : b.quotient.1 = 0 := by
  show b.mantissa * _ = 0
  rw [none, Nat.zero_mul]

theorem quotient_num_pos (some : 0 < b.mantissa) : 0 < b.quotient.1 :=
  Nat.mul_pos some (Nat.pow_pos (by decide))

/-- The magnitude of a float is unpacked without its sign. -/
theorem unpacked_signedFloat (parts : Binary.ofFloat? x = some b) (some : 0 < b.mantissa) :
    unpacked (signedFloat b.negative x) = .finite .positive b.mantissa b.exponent some := by
  have whole := unpacked_eq_finite parts some
  unfold signedFloat
  cases sign : b.negative with
  | false =>
    rw [sign] at whole
    exact whole
  | true =>
    rw [sign] at whole
    rw [if_pos rfl, Binary64.neg_eq, whole]
    rfl

/-- A number with the magnitude and the sign of a float equals it. -/
theorem signedFloat_beq (parts : Binary.ofFloat? x = some b) (some : 0 < b.mantissa)
    (magnitude : unpacked y = .finite .positive b.mantissa b.exponent some) :
    (signedFloat b.negative y == x) = true := by
  have whole := unpacked_eq_finite parts some
  refine Binary64.beq_of_unpacked ?_ whole
  unfold signedFloat
  cases b.negative with
  | false => exact magnitude
  | true =>
    rw [if_pos rfl, Binary64.neg_eq, magnitude]
    rfl

/-- Zero equals both zeros. -/
theorem zero_beq (parts : Binary.ofFloat? x = some b) (none : b.mantissa = 0) :
    ((0.0 : Float) == x) = true := by
  have zero : Binary.ofFloat? (0.0 : Float) = .some ⟨false, 0, -1074⟩ := by decide +kernel
  have isZero : ∀ {z : Float} {c : Binary}, Binary.ofFloat? z = .some c → c.mantissa = 0 →
      ∃ s, unpacked z = .zero s := by
    intro z c parts none
    rw [Binary64.ofFloat?_eq] at parts
    cases u : unpacked z with
    | zero s => exact ⟨s, rfl⟩
    | finite s m e positive =>
      rw [u] at parts
      cases parts
      exact absurd none positive.ne'
    | _ =>
      rw [u] at parts
      cases parts
  obtain ⟨s, left⟩ := isZero zero rfl
  obtain ⟨s', right⟩ := isZero parts none
  rw [Binary64.beq_eq, left, right]
  rfl

end Signs

/-! ### Integral numbers -/

section Integral

variable {x : Float} {b : Binary}

/-- The numeral of an integer. -/
def integerNumeral (n : ℤ) : PlainNumeral where
  negative := decide (n < 0)
  whole := Nat.toDigits 10 n.natAbs
  fraction := none
  nonempty := Nat.toDigits_ne_nil
  wholeDigits := isDigit_of_mem_toDigits
  fractionDigits := by simp

theorem text_integerNumeral (n : ℤ) : (toString n).toList = (integerNumeral n).text := by
  rw [Int.toString_eq_repr, Int.repr_eq_if, PlainNumeral.text]
  by_cases negative : n < 0
  · have magnitude : n.natAbs = (-n).toNat := by omega
    have minus : (integerNumeral n).negative = true := decide_eq_true negative
    rw [if_neg (not_le.mpr negative), if_pos minus, String.toList_append, Nat.toList_repr,
      ← magnitude]
    rfl
  · have magnitude : n.natAbs = n.toNat := by omega
    rw [if_pos (not_lt.mp negative), if_neg (by simpa [integerNumeral] using negative),
      Nat.toList_repr, ← magnitude]
    rfl

theorem value_integerNumeral (n : ℤ) :
    numeralValue (integerNumeral n).text 0 =
      signedFloat (decide (n < 0)) (scientificFloat n.natAbs 0) := by
  rw [PlainNumeral.numeralValue_text, PlainNumeral.digits]
  simp only [integerNumeral, Option.getD_none, List.append_nil, List.length_nil]
  rw [digitsValue_toDigits]
  rfl

/-- An integer with a sign. -/
def signedInteger (negative : Bool) (q : ℕ) : ℤ := if negative then -(q : ℤ) else q

theorem natAbs_signedInteger (negative : Bool) (q : ℕ) : (signedInteger negative q).natAbs = q := by
  cases negative <;> simp [signedInteger]

theorem sign_signedInteger (negative : Bool) {q : ℕ} (some : 0 < q) :
    decide (signedInteger negative q < 0) = negative := by
  cases negative with
  | false => exact decide_eq_false (not_lt.mpr (Int.natCast_nonneg q))
  | true => exact decide_eq_true (neg_neg_of_pos (Int.natCast_pos.mpr some))

theorem floatInteger?_eq (parts : Binary.ofFloat? x = some b) :
    floatInteger? x = if b.quotient.1 % b.quotient.2 = 0 then
      some (signedInteger b.negative (b.quotient.1 / b.quotient.2)) else none := by
  unfold floatInteger?
  rw [parts]
  rfl

/-- A magnitude that is integral is read back. -/
theorem unpacked_scientificFloat_zero (parts : Binary.ofFloat? x = some b) (some : 0 < b.mantissa)
    {q : ℕ} (exact : q * b.quotient.2 = b.quotient.1) :
    unpacked (scientificFloat q 0) = .finite .positive b.mantissa b.exponent some := by
  have value : (q : ℚ) = b.mantissa * 2 ^ b.exponent := by
    have unit : ((b.quotient.2 : ℕ) : ℚ) ≠ 0 := by exact_mod_cast (quotient_den_pos b).ne'
    rw [← quotient_eq, eq_div_iff unit]
    exact_mod_cast exact
  have canonical := Binary64.canonical_unpacked (signedFloat b.negative x)
  rw [unpacked_signedFloat parts some] at canonical
  refine Binary64.unpacked_scientificFloat canonical ?_
  rw [zpow_zero, mul_one, value, sub_self, abs_zero]
  have mantissa : (0 : ℚ) < b.mantissa := by exact_mod_cast some
  positivity

/-- **An integral number** is written as a plain numeral that is read back. -/
theorem exists_numberText_integral (parts : Binary.ofFloat? x = some b)
    (whole : b.quotient.1 % b.quotient.2 = 0) :
    ∃ numeral : PlainNumeral, (numberText x).toList = numeral.text ∧
      (numeralValue numeral.text 0 == x) = true := by
  have integer := floatInteger?_eq parts
  have exact := Nat.div_mul_cancel (Nat.dvd_of_mod_eq_zero whole)
  rw [if_pos whole] at integer
  generalize b.quotient.1 / b.quotient.2 = q at integer exact
  refine ⟨integerNumeral (signedInteger b.negative q), ?_, ?_⟩
  · unfold numberText
    rw [integer, ← text_integerNumeral]
  · rw [value_integerNumeral, natAbs_signedInteger]
    rcases Nat.eq_zero_or_pos b.mantissa with none | some
    · rw [quotient_num_zero none] at exact
      obtain rfl := (Nat.mul_eq_zero.mp exact).resolve_right (quotient_den_pos b).ne'
      have zero : signedInteger b.negative 0 = 0 := by cases b.negative <;> rfl
      rw [zero]
      exact zero_beq parts none
    · have above : 0 < q := by
        refine Nat.pos_of_ne_zero ?_
        rintro rfl
        rw [Nat.zero_mul] at exact
        exact (quotient_num_pos some).ne exact
      rw [sign_signedInteger _ above]
      exact signedFloat_beq parts some (unpacked_scientificFloat_zero parts some exact)

end Integral

/-! ### Numbers with a fraction -/

section Fraction

variable {x : Float} {b : Binary}

theorem mantissa_pos (fraction : b.quotient.1 % b.quotient.2 ≠ 0) : 0 < b.mantissa := by
  refine Nat.pos_of_ne_zero fun none => fraction ?_
  rw [quotient_num_zero none, Nat.zero_mod]

/-- A number with a fraction is less than `2 ^ 52`. -/
theorem lt_of_fraction (parts : Binary.ofFloat? x = some b)
    (fraction : b.quotient.1 % b.quotient.2 ≠ 0) :
    (b.mantissa : ℚ) * 2 ^ b.exponent < 2 ^ 52 := by
  have some := mantissa_pos fraction
  have below : b.exponent ≤ -1 := by
    by_contra above
    have one : b.quotient.2 = 1 := by
      show twoPow (-b.exponent).toNat = 1
      have none : (-b.exponent).toNat = 0 := by omega
      rw [none]
      rfl
    rw [one, Nat.mod_one] at fraction
    exact fraction rfl
  have canonical := Binary64.canonical_unpacked x
  rw [unpacked_eq_finite parts some] at canonical
  have mantissa : (b.mantissa : ℚ) < 2 ^ 53 := by exact_mod_cast canonical.1
  calc (b.mantissa : ℚ) * 2 ^ b.exponent ≤ b.mantissa * 2 ^ (-1 : ℤ) := by
        refine mul_le_mul_of_nonneg_left ?_ (Nat.cast_nonneg _)
        exact zpow_le_zpow_right₀ (by norm_num) below
    _ < 2 ^ 53 * 2 ^ (-1 : ℤ) := mul_lt_mul_of_pos_right mantissa (by norm_num)
    _ = 2 ^ 52 := by norm_num

/-- The text of a number with a fraction is that of the decimal found for it. -/
theorem exists_numberText_fraction (parts : Binary.ofFloat? x = some b)
    (fraction : b.quotient.1 % b.quotient.2 ≠ 0) :
    ∃ (some : 0 < b.mantissa) (n : ℕ) (k : ℤ),
      unpacked (signedFloat b.negative x) = .finite .positive b.mantissa b.exponent some ∧
      Binary64.Found (signedFloat b.negative x) (b.mantissa * 2 ^ b.exponent) n k ∧
      (numberText x).toList = if b.negative then '-' :: scientificText positionalRange (n, k)
        else scientificText positionalRange (n, k) := by
  have some := mantissa_pos fraction
  have magnitude := unpacked_signedFloat parts some
  obtain ⟨n, k, search, found⟩ := Binary64.exists_found magnitude (quotient_num_pos some)
    (quotient_den_pos b) (quotient_eq b)
  refine ⟨some, n, k, magnitude, found, ?_⟩
  have integer := floatInteger?_eq parts
  rw [if_neg fraction] at integer
  unfold numberText floatText
  simp only [integer, parts, if_neg some.ne', search, Option.getD_some, String.toList_ofList]

/-- **From one ten-thousandth on** a number is written as a plain numeral that is read back. -/
theorem exists_numberText_of_le (parts : Binary.ofFloat? x = some b)
    (fraction : b.quotient.1 % b.quotient.2 ≠ 0)
    (least : 1 / 10000 ≤ (b.mantissa : ℚ) * 2 ^ b.exponent) :
    ∃ numeral : PlainNumeral, (numberText x).toList = numeral.text ∧
      (numeralValue numeral.text 0 == x) = true := by
  obtain ⟨some, n, k, magnitude, found, text⟩ := exists_numberText_fraction parts fraction
  have above : (0 : ℚ) < b.mantissa * 2 ^ b.exponent := lt_of_lt_of_le (by norm_num) least
  have leading := found.pow_le above
  have decimal : (0 : ℚ) < n * 10 ^ k := lt_of_lt_of_le (zpow_pos (by norm_num) _) leading
  have lower : positionalRange.least ≤ Int.log 10 ((n : ℚ) * 10 ^ k) := by
    have places : -4 ≤ Int.log 10 ((b.mantissa : ℚ) * 2 ^ b.exponent) := by
      refine (Int.zpow_le_iff_le_log (by norm_num) above).mp ?_
      have tenth : ((10 : ℕ) : ℚ) ^ (-4 : ℤ) = 1 / 10000 := by norm_num
      rw [tenth]
      exact least
    refine (Int.zpow_le_iff_le_log (by norm_num) decimal).mp (le_trans ?_ leading)
    exact zpow_le_zpow_right₀ (by norm_num) places
  have upper : Int.log 10 ((n : ℚ) * 10 ^ k) < positionalRange.beyond := by
    refine (Int.lt_zpow_iff_log_lt (by norm_num) decimal).mp ?_
    have bound : (2 : ℚ) * 2 ^ 52 < ((10 : ℕ) : ℚ) ^ (16 : ℤ) := by norm_num
    have double := found.le_double above
    have small := lt_of_fraction parts fraction
    show (n : ℚ) * 10 ^ k < ((10 : ℕ) : ℚ) ^ (16 : ℤ)
    linarith
  obtain ⟨numeral, sign, written, value⟩ :=
    exists_scientificText b.negative (Binary64.decimal_pos_iff.mp decimal) lower upper
  refine ⟨numeral, ?_, ?_⟩
  · rw [text, PlainNumeral.text, sign, written]
  · rw [PlainNumeral.numeralValue_text, sign, value]
    exact signedFloat_beq parts some (Binary64.unpacked_of_beq found.readsBack magnitude)

/-- **Below one ten-thousandth** a number with a fraction is written with an exponent. -/
theorem exists_numberText_of_lt (parts : Binary.ofFloat? x = some b)
    (fraction : b.quotient.1 % b.quotient.2 ≠ 0)
    (small : (b.mantissa : ℚ) * 2 ^ b.exponent < 1 / 10000) :
    ∃ (numeral : PlainNumeral) (tail : List Char),
      (numberText x).toList = numeral.text ++ 'e' :: '-' :: tail := by
  obtain ⟨some, n, k, magnitude, found, text⟩ := exists_numberText_fraction parts fraction
  have above := Binary64.value_pos some b.exponent
  have decimal : (0 : ℚ) < n * 10 ^ k :=
    lt_of_lt_of_le (zpow_pos (by norm_num) _) (found.pow_le above)
  have below : Int.log 10 ((n : ℚ) * 10 ^ k) < positionalRange.least := by
    refine (Int.lt_zpow_iff_log_lt (by norm_num) decimal).mp ?_
    have tenth : ((10 : ℕ) : ℚ) ^ positionalRange.least = 1 / 10000 := by
      norm_num [positionalRange]
    rw [tenth]
    exact found.lt_tenThousandth magnitude small
  obtain ⟨numeral, tail, sign, written⟩ :=
    exists_scientificText_exponent b.negative (Binary64.decimal_pos_iff.mp decimal) below
  refine ⟨numeral, tail, ?_⟩
  rw [text, PlainNumeral.text, sign, written]
  split <;> rfl

end Fraction

/-! ### Writable numbers -/

section Writable

variable {x : Float} {b : Binary}

/-- A number that can be written in a condition: a finite one that is integral, or at least one
ten-thousandth in magnitude. No float lies between one ten-thousandth and the float nearest to it,
which is above it (`Binary64.tenThousandth_le`). -/
def Writable (x : Float) : Prop :=
  ∃ value, exactValue? x = some value ∧ (value.den = 1 ∨ 1 / 10000 ≤ |value|)

theorem writable_iff (parts : Binary.ofFloat? x = some b) :
    Writable x ↔ b.quotient.1 % b.quotient.2 = 0 ∨
      1 / 10000 ≤ (b.mantissa : ℚ) * 2 ^ b.exponent := by
  have exactly : exactValue? x = some
      ((if b.negative then -(b.quotient.1 : ℤ) else (b.quotient.1 : ℤ) : ℤ) /
        (b.quotient.2 : ℚ)) := by
    unfold exactValue?
    rw [parts]
    rfl
  have unit : b.quotient.2 ≠ 0 := (quotient_den_pos b).ne'
  have magnitude : 0 ≤ (b.mantissa : ℚ) * 2 ^ b.exponent := by positivity
  have value : ((if b.negative then -(b.quotient.1 : ℤ) else (b.quotient.1 : ℤ) : ℤ) : ℚ) /
      (b.quotient.2 : ℚ) = if b.negative then -((b.quotient.1 : ℚ) / b.quotient.2)
        else (b.quotient.1 : ℚ) / b.quotient.2 := by
    split
    · push_cast
      rw [neg_div]
    · push_cast
      rfl
  unfold Writable
  simp only [exactly, value, Option.some.injEq, exists_eq_left', ← Nat.dvd_iff_mod_eq_zero]
  rw [← Rat.den_div_natCast_eq_one_iff _ _ unit]
  split
  · rw [Rat.neg_den, abs_neg, quotient_eq, abs_of_nonneg magnitude]
  · rw [quotient_eq, abs_of_nonneg magnitude]

/-- **A writable number** is written as a plain numeral that is read back. -/
theorem numberText_of_writable (writable : Writable x) :
    ∃ numeral : PlainNumeral, (numberText x).toList = numeral.text ∧
      (numeralValue numeral.text 0 == x) = true := by
  cases parts : Binary.ofFloat? x with
  | none =>
    obtain ⟨value, exactly, -⟩ := writable
    unfold exactValue? at exactly
    rw [parts] at exactly
    cases exactly
  | some b =>
    by_cases whole : b.quotient.1 % b.quotient.2 = 0
    · exact exists_numberText_integral parts whole
    · exact exists_numberText_of_le parts whole
        (((writable_iff parts).mp writable).resolve_left whole)

/-- **Every other number** is written in a word or with an exponent. -/
theorem numberText_of_not_writable (notWritable : ¬ Writable x) :
    (numberText x).toList ∈ ["nan".toList, "inf".toList, "-inf".toList] ∨
      ∃ (numeral : PlainNumeral) (tail : List Char),
        (numberText x).toList = numeral.text ++ 'e' :: '-' :: tail := by
  cases parts : Binary.ofFloat? x with
  | none =>
    left
    unfold numberText floatInteger? floatText
    simp only [parts, Option.bind_none]
    split
    · simp
    · split <;> simp
  | some b =>
    right
    have neither := mt (writable_iff parts).mpr notWritable
    rw [not_or] at neither
    exact exists_numberText_of_lt parts neither.1 (not_le.mp neither.2)

end Writable

end SheetExport.Condition
