/-
**Positional texts of decimals.**

The text of a decimal has its digits without the zeros at their end. With a point among them it is
a plain numeral of the same value (`exists_positions`); with an exponent it is a plain numeral
with a mark behind it (`exists_exponentText`).
-/

import SheetExport.Number.Shortest
import SheetExport.Proofs.Number.Numeral
import SheetExport.Proofs.Number.Scientific

namespace SheetExport

open Text (digitsValue)
open Binary64 (scientificFloat_congr log_scientific)

/-! ### Significant digits -/

section Digits

variable {n : ℕ}

/-- The digits of a number are the significant ones and zeros. -/
theorem toDigits_eq_significant (n : ℕ) :
    Nat.toDigits 10 n =
      (significantDigits n).1 ++ List.replicate (significantDigits n).2 '0' := by
  have parts := List.rdropWhile_append_rtakeWhile (p := (· = '0')) (l := Nat.toDigits 10 n)
  have zeros : (Nat.toDigits 10 n).rtakeWhile (· = '0') =
      List.replicate (significantDigits n).2 '0' := by
    refine List.eq_replicate_iff.mpr ⟨?_, fun c member => ?_⟩
    · have lengths := congrArg List.length parts
      rw [List.length_append] at lengths
      exact Nat.eq_sub_of_add_eq' lengths
    · simpa using List.mem_rtakeWhile_imp member
  rw [← zeros]
  exact parts.symm

theorem isDigit_of_mem_significantDigits {n : ℕ} :
    ∀ c ∈ (significantDigits n).1, c.isDigit = true := by
  intro c member
  refine isDigit_of_mem_toDigits (n := n) c ?_
  rw [toDigits_eq_significant]
  exact List.mem_append_left _ member

/-- The zeros at the end multiply the significant digits. -/
theorem eq_significantDigits (n : ℕ) :
    n = digitsValue (significantDigits n).1 * 10 ^ (significantDigits n).2 := by
  have value := digitsValue_toDigits n
  rw [toDigits_eq_significant] at value
  have zeros := digitsValue_zeros (isDigit_of_mem_significantDigits (n := n)) 0
    (significantDigits n).2
  rw [List.replicate_zero, List.nil_append, value] at zeros
  exact zeros

theorem significantDigits_ne_nil (some : 0 < n) : (significantDigits n).1 ≠ [] := by
  intro none
  have value := eq_significantDigits n
  rw [none] at value
  have zero : n = 0 := by rw [value, digitsValue, List.foldl_nil, Nat.zero_mul]
  exact some.ne' zero

theorem length_significantDigits (n : ℕ) :
    (significantDigits n).1.length + (significantDigits n).2 = digitCount n := by
  unfold digitCount
  rw [toDigits_eq_significant, List.length_append, List.length_replicate]

end Digits

/-! ### Texts -/

section Texts

variable {digits : List Char} {before : ℤ}

/-- A numeral with the point `before` places after the beginning of some digits. -/
structure Positions (numeral : PlainNumeral) (digits : List Char) (before : ℤ) : Prop where
  text : numeral.magnitude = positionalText digits before
  value : (digitsValue numeral.digits : ℚ) * 10 ^ (-((numeral.fraction.getD []).length : ℤ)) =
    digitsValue digits * 10 ^ (before - digits.length)

/-- With no digit before the point there is a zero, and zeros for the missing places. -/
theorem exists_positions_before (negative : Bool) (areDigits : ∀ c ∈ digits, c.isDigit = true)
    (small : before ≤ 0) :
    ∃ numeral : PlainNumeral, numeral.negative = negative ∧ Positions numeral digits before := by
  refine ⟨⟨negative, ['0'], some (List.replicate (-before).toNat '0' ++ digits), by simp,
    isDigit_of_mem_zeros 1, ?_⟩, rfl, ?_, ?_⟩
  · exact List.forall_mem_append.mpr ⟨isDigit_of_mem_zeros _, areDigits⟩
  · unfold positionalText
    rw [if_pos small]
    rfl
  · have value := digitsValue_zeros areDigits ((-before).toNat + 1) 0
    rw [List.replicate_zero, List.append_nil, pow_zero, Nat.mul_one, List.replicate_succ] at value
    have exponent : -(((List.replicate (-before).toNat '0' ++ digits).length : ℕ) : ℤ) =
        before - digits.length := by
      rw [List.length_append, List.length_replicate]
      omega
    show ((digitsValue ('0' :: (List.replicate (-before).toNat '0' ++ digits)) : ℕ) : ℚ) *
      10 ^ (-(((List.replicate (-before).toNat '0' ++ digits).length : ℕ) : ℤ)) = _
    rw [exponent, ← List.cons_append, value]

/-- With all digits before the point there are zeros for the missing places, and one behind it. -/
theorem exists_positions_behind (negative : Bool) (nonempty : digits ≠ [])
    (areDigits : ∀ c ∈ digits, c.isDigit = true) (some : 0 < before)
    (whole : (digits.length : ℤ) ≤ before) :
    ∃ numeral : PlainNumeral, numeral.negative = negative ∧ Positions numeral digits before := by
  refine ⟨⟨negative, digits ++ List.replicate (before - digits.length).toNat '0', .some ['0'],
    by simp [nonempty], ?_, isDigit_of_mem_zeros 1⟩, rfl, ?_, ?_⟩
  · exact List.forall_mem_append.mpr ⟨areDigits, isDigit_of_mem_zeros _⟩
  · unfold positionalText
    rw [if_neg (not_le.mpr some), if_pos whole]
    rfl
  · have value := digitsValue_zeros areDigits 0 ((before - digits.length).toNat + 1)
    rw [List.replicate_zero, List.nil_append, List.replicate_succ', ← List.append_assoc] at value
    have power : (10 : ℚ) ^ (before - digits.length) = 10 ^ (before - digits.length).toNat := by
      rw [← zpow_natCast, Int.toNat_of_nonneg (by omega)]
    show ((digitsValue (digits ++ List.replicate (before - digits.length).toNat '0' ++ ['0']) :
      ℕ) : ℚ) * 10 ^ (-((1 : ℕ) : ℤ)) = _
    rw [value, power, pow_succ]
    push_cast
    rw [zpow_neg_one]
    field_simp

/-- With the point among the digits there is nothing else. -/
theorem exists_positions_among (negative : Bool) (areDigits : ∀ c ∈ digits, c.isDigit = true)
    (some : 0 < before) (inside : before < digits.length) :
    ∃ numeral : PlainNumeral, numeral.negative = negative ∧ Positions numeral digits before := by
  have nonempty : digits ≠ [] := by
    rintro rfl
    exact absurd (lt_trans some inside) (lt_irrefl 0)
  have notFirst : before.toNat ≠ 0 := by omega
  refine ⟨⟨negative, digits.take before.toNat, .some (digits.drop before.toNat),
    by simp [nonempty, notFirst], ?_, ?_⟩, rfl, ?_, ?_⟩
  · exact fun c member => areDigits c (List.mem_of_mem_take member)
  · exact fun c member => areDigits c (List.mem_of_mem_drop member)
  · unfold positionalText
    rw [if_neg (not_le.mpr some), if_neg (not_le.mpr inside)]
    rfl
  · have exponent : -((digits.drop before.toNat).length : ℤ) = before - digits.length := by
      rw [List.length_drop]
      omega
    show ((digitsValue (digits.take before.toNat ++ digits.drop before.toNat) : ℕ) : ℚ) *
      10 ^ (-((digits.drop before.toNat).length : ℤ)) = _
    rw [exponent, List.take_append_drop]

/-- **A positional text is a plain numeral** with the digits moved behind the point. -/
theorem exists_positions (negative : Bool) (nonempty : digits ≠ [])
    (areDigits : ∀ c ∈ digits, c.isDigit = true) (before : ℤ) :
    ∃ numeral : PlainNumeral, numeral.negative = negative ∧ Positions numeral digits before := by
  by_cases small : before ≤ 0
  · exact exists_positions_before negative areDigits small
  · by_cases whole : (digits.length : ℤ) ≤ before
    · exact exists_positions_behind negative nonempty areDigits (not_le.mp small) whole
    · exact exists_positions_among negative areDigits (not_le.mp small) (not_le.mp whole)

/-- **A text with an exponent** is a plain numeral and a mark behind it. -/
theorem exists_exponentText (negative : Bool) (nonempty : digits ≠ [])
    (areDigits : ∀ c ∈ digits, c.isDigit = true) {exponent : ℤ} (below : exponent < 0) :
    ∃ (numeral : PlainNumeral) (tail : List Char), numeral.negative = negative ∧
      exponentText digits exponent = numeral.magnitude ++ 'e' :: '-' :: tail := by
  unfold exponentText
  simp only [if_pos below]
  obtain ⟨first, rest, rfl⟩ := List.exists_cons_of_ne_nil nonempty
  have firstDigit : ∀ c ∈ [first], c.isDigit = true := by
    intro c member
    rw [List.mem_singleton.mp member]
    exact areDigits first List.mem_cons_self
  cases rest with
  | nil => exact ⟨⟨negative, [first], none, by simp, firstDigit, by simp⟩, _, rfl, rfl⟩
  | cons second rest =>
    exact ⟨⟨negative, [first], some (second :: rest), by simp, firstDigit,
      fun c member => areDigits c (List.mem_cons_of_mem _ member)⟩, _, rfl, rfl⟩

end Texts

/-! ### Decimals -/

section Decimals

variable {n : ℕ} {k : ℤ}

/-- The exponent of the first digit is the logarithm. -/
theorem leading_eq (some : 0 < n) (k : ℤ) :
    k + (significantDigits n).2 + (significantDigits n).1.length - 1 =
      Int.log 10 ((n : ℚ) * 10 ^ k) := by
  have log := log_scientific some k
  have length := length_significantDigits n
  omega

/-- In the positional range, the text of a decimal is a plain numeral that is read the same. -/
theorem exists_scientificText (negative : Bool) (some : 0 < n)
    (least : positionalRange.least ≤ Int.log 10 ((n : ℚ) * 10 ^ k))
    (most : Int.log 10 ((n : ℚ) * 10 ^ k) < positionalRange.beyond) :
    ∃ numeral : PlainNumeral, numeral.negative = negative ∧
      numeral.magnitude = scientificText positionalRange (n, k) ∧
      scientificFloat (digitsValue numeral.digits) (0 - (numeral.fraction.getD []).length) =
        scientificFloat n k := by
  obtain ⟨numeral, sign, text, value⟩ := exists_positions negative
    (significantDigits_ne_nil some) isDigit_of_mem_significantDigits
    (Int.log 10 ((n : ℚ) * 10 ^ k) + 1)
  refine ⟨numeral, sign, ?_, scientificFloat_congr ?_⟩
  · unfold scientificText
    simp only [leading_eq some k]
    rw [text, if_pos ⟨least, most⟩]
  · have exponent : Int.log 10 ((n : ℚ) * 10 ^ k) + 1 - (significantDigits n).1.length =
        (significantDigits n).2 + k := by
      rw [← leading_eq some k]
      omega
    rw [zero_sub, value, exponent, zpow_add₀ (by norm_num), zpow_natCast, ← mul_assoc]
    conv_rhs => rw [eq_significantDigits n]
    push_cast
    rfl

/-- Below the positional range, the text of a decimal has an exponent. -/
theorem exists_scientificText_exponent (negative : Bool) (some : 0 < n)
    (below : Int.log 10 ((n : ℚ) * 10 ^ k) < positionalRange.least) :
    ∃ (numeral : PlainNumeral) (tail : List Char), numeral.negative = negative ∧
      scientificText positionalRange (n, k) = numeral.magnitude ++ 'e' :: '-' :: tail := by
  have negativeExponent : Int.log 10 ((n : ℚ) * 10 ^ k) < 0 := lt_trans below (by decide)
  obtain ⟨numeral, tail, sign, text⟩ := exists_exponentText negative
    (significantDigits_ne_nil some) isDigit_of_mem_significantDigits negativeExponent
  refine ⟨numeral, tail, sign, ?_⟩
  unfold scientificText
  simp only [leading_eq some k]
  rw [if_neg fun inRange => absurd inRange.1 (not_le.mpr below), text]

end Decimals

end SheetExport
