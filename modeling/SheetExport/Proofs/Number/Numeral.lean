/-
**Numerals in ASCII digits.**

A `PlainNumeral` is what the library itself writes for a number without exponent: a minus perhaps,
ASCII digits, and digits behind a point if there is one. Its text is scanned off the front of every
text that goes on with neither a digit nor a point (`PlainNumeral.scanNumber_append`), and its
value is that of all its digits, moved behind the point (`PlainNumeral.numeralValue_text`).
-/

import Mathlib.Algebra.Group.Nat.Defs
import Mathlib.Data.List.Basic
import SheetExport.Number.Numeral

namespace SheetExport

open Text (isDecimalDigit digitValue? digitsValue)

/-! ### ASCII digits -/

section Digits

variable {c : Char} {cs rest : List Char}

/-- The code points of the ASCII digits. -/
theorem toNat_of_isDigit (digit : c.isDigit = true) : 48 ≤ c.toNat ∧ c.toNat ≤ 57 := by
  simp only [Char.isDigit, Bool.and_eq_true, decide_eq_true_eq] at digit
  exact digit

/-- The first row of the table is the ASCII digits. -/
theorem isDecimalDigit_of_isDigit (digit : c.isDigit = true) : isDecimalDigit c = true := by
  obtain ⟨least, greatest⟩ := toNat_of_isDigit digit
  simp [isDecimalDigit, Text.decimalRanges, Text.Ranges.covers, least, greatest]

theorem digitValue?_of_isDigit (digit : c.isDigit = true) :
    digitValue? c = some (c.toNat - 48) := by
  obtain ⟨least, greatest⟩ := toNat_of_isDigit digit
  have small : c.toNat - 48 < 10 := by omega
  simp [digitValue?, Text.decimalRanges, least, greatest, Nat.mod_eq_of_lt small]

theorem digitsValue_eq_ofDigitChars (digits : ∀ c ∈ cs, c.isDigit = true) :
    digitsValue cs = Nat.ofDigitChars 10 cs 0 := by
  have step : ∀ (n : Nat), ∀ c ∈ cs,
      n * 10 + (digitValue? c).getD 0 = 10 * n + (c.toNat - '0'.toNat) := by
    intro n c member
    rw [digitValue?_of_isDigit (digits c member), Option.getD_some, Nat.mul_comm]
    rfl
  rw [digitsValue, Nat.ofDigitChars_eq_foldl]
  exact List.foldl_ext _ _ 0 step

theorem isDigit_of_mem_toDigits {n : Nat} : ∀ c ∈ Nat.toDigits 10 n, c.isDigit = true :=
  fun _ member => Nat.isDigit_of_mem_toDigits (by decide) (by decide) member

/-- The digits of a number write it. -/
theorem digitsValue_toDigits (n : Nat) : digitsValue (Nat.toDigits 10 n) = n := by
  rw [digitsValue_eq_ofDigitChars isDigit_of_mem_toDigits, Nat.ofDigitChars_ten_toDigits]

theorem isDigit_of_mem_zeros (places : Nat) : ∀ c ∈ List.replicate places '0', c.isDigit = true := by
  intro c member
  rw [List.eq_of_mem_replicate member]
  rfl

/-- Zeros in front of digits do not count, zeros behind them multiply. -/
theorem digitsValue_zeros (digits : ∀ c ∈ cs, c.isDigit = true) (before behind : Nat) :
    digitsValue (List.replicate before '0' ++ cs ++ List.replicate behind '0') =
      digitsValue cs * 10 ^ behind := by
  have all : ∀ c ∈ List.replicate before '0' ++ cs ++ List.replicate behind '0',
      c.isDigit = true :=
    List.forall_mem_append.mpr ⟨List.forall_mem_append.mpr
      ⟨isDigit_of_mem_zeros before, digits⟩, isDigit_of_mem_zeros behind⟩
  rw [digitsValue_eq_ofDigitChars all, digitsValue_eq_ofDigitChars digits,
    Nat.ofDigitChars_append, Nat.ofDigitChars_append, Nat.ofDigitChars_replicate_zero,
    Nat.ofDigitChars_replicate_zero, Nat.mul_zero, Nat.mul_comm]

/-- A text that goes on without a digit. -/
def DigitsEnd (rest : List Char) : Prop := ∀ c ∈ rest.head?, isDecimalDigit c = false

theorem takeWhile_digits (digits : ∀ c ∈ cs, c.isDigit = true) (ends : DigitsEnd rest) :
    (cs ++ rest).takeWhile isDecimalDigit = cs := by
  rw [List.takeWhile_append_of_pos fun c member => isDecimalDigit_of_isDigit (digits c member)]
  cases rest with
  | nil => simp
  | cons c rest => simp [ends c rfl]

theorem dropWhile_digits (digits : ∀ c ∈ cs, c.isDigit = true) (ends : DigitsEnd rest) :
    (cs ++ rest).dropWhile isDecimalDigit = rest := by
  rw [List.dropWhile_append_of_pos fun c member => isDecimalDigit_of_isDigit (digits c member)]
  cases rest with
  | nil => simp
  | cons c rest => simp [ends c rfl]

end Digits

/-! ### Plain numerals -/

/-- A numeral without exponent, in ASCII digits. -/
structure PlainNumeral where
  negative : Bool
  whole : List Char
  /-- The digits behind the point, if there is a point. -/
  fraction : Option (List Char)
  nonempty : whole ≠ []
  wholeDigits : ∀ c ∈ whole, c.isDigit = true
  fractionDigits : ∀ c ∈ fraction.getD [], c.isDigit = true

namespace PlainNumeral

/-- The numeral without its sign. -/
def magnitude (numeral : PlainNumeral) : List Char :=
  match numeral.fraction with
  | none => numeral.whole
  | some digits => numeral.whole ++ '.' :: digits

/-- The numeral as it is written. -/
def text (numeral : PlainNumeral) : List Char :=
  if numeral.negative then '-' :: numeral.magnitude else numeral.magnitude

/-- What may stand behind a numeral: neither a digit nor a point. -/
def Ends (rest : List Char) : Prop := ∀ c ∈ rest.head?, isDecimalDigit c = false ∧ c ≠ '.'

theorem Ends.digitsEnd {rest : List Char} (ends : Ends rest) : DigitsEnd rest :=
  fun c head => (ends c head).1

variable (numeral : PlainNumeral)

theorem exists_magnitude : ∃ c cs, numeral.magnitude = c :: cs ∧ c.isDigit = true := by
  obtain ⟨c, cs, whole⟩ := List.exists_cons_of_ne_nil numeral.nonempty
  have digit := numeral.wholeDigits c (by rw [whole]; exact List.mem_cons_self)
  rw [magnitude]
  split
  · exact ⟨c, cs, whole, digit⟩
  · exact ⟨c, cs ++ '.' :: _, by rw [whole, List.cons_append], digit⟩

/-- A numeral begins with a digit or with a minus. -/
theorem exists_text : ∃ c cs, numeral.text = c :: cs ∧ (c = '-' ∨ c.isDigit = true) := by
  obtain ⟨c, cs, magnitude, digit⟩ := numeral.exists_magnitude
  rw [text]
  split
  · exact ⟨'-', _, rfl, Or.inl rfl⟩
  · exact ⟨c, cs, magnitude, Or.inr digit⟩

theorem isSign_of_isDigit {c : Char} (digit : c.isDigit = true) : isSign c = false := by
  obtain ⟨least, -⟩ := toNat_of_isDigit digit
  simp only [isSign, Bool.or_eq_false_iff, decide_eq_false_iff_not]
  constructor <;> rintro rfl <;> exact absurd least (by decide)

/-- Digits without a point behind them. -/
theorem scanMagnitude_whole {whole rest : List Char} (nonempty : whole ≠ [])
    (digits : ∀ c ∈ whole, c.isDigit = true) (ends : Ends rest) :
    scanMagnitude (whole ++ rest) = some (whole, rest) := by
  rw [scanMagnitude, takeWhile_digits digits ends.digitsEnd, dropWhile_digits digits ends.digitsEnd]
  cases whole with
  | nil => exact absurd rfl nonempty
  | cons c whole =>
    have noPoint : ∀ tail, rest ≠ '.' :: tail := by
      rintro tail rfl
      exact (ends '.' rfl).2 rfl
    simp only

/-- Digits with a point and more digits behind them. -/
theorem scanMagnitude_fraction {whole fraction rest : List Char} (nonempty : whole ≠ [])
    (digits : ∀ c ∈ whole, c.isDigit = true) (inFraction : ∀ c ∈ fraction, c.isDigit = true)
    (ends : DigitsEnd rest) :
    scanMagnitude (whole ++ '.' :: fraction ++ rest) = some (whole ++ '.' :: fraction, rest) := by
  have point : DigitsEnd ('.' :: (fraction ++ rest)) := by
    intro c head
    cases head
    rfl
  rw [List.append_assoc, List.cons_append, scanMagnitude, takeWhile_digits digits point,
    dropWhile_digits digits point]
  cases whole with
  | nil => exact absurd rfl nonempty
  | cons c whole =>
    simp only [takeWhile_digits inFraction ends, dropWhile_digits inFraction ends]

theorem scanMagnitude_append {rest : List Char} (ends : Ends rest) :
    scanMagnitude (numeral.magnitude ++ rest) = some (numeral.magnitude, rest) := by
  have inFraction := numeral.fractionDigits
  rw [magnitude]
  split
  · exact scanMagnitude_whole numeral.nonempty numeral.wholeDigits ends
  · rename_i digits point
    rw [point] at inFraction
    exact scanMagnitude_fraction numeral.nonempty numeral.wholeDigits inFraction ends.digitsEnd

/-- **A numeral is scanned whole** in front of what continues no numeral. -/
theorem scanNumber_append {rest : List Char} (ends : Ends rest) :
    scanNumber (numeral.text ++ rest) = some (numeral.text, rest) := by
  have scanned := numeral.scanMagnitude_append ends
  rw [text]
  split
  · have minus : isSign '-' = true := rfl
    rw [List.cons_append, scanNumber, if_pos minus, scanned]
    rfl
  · obtain ⟨c, cs, magnitude, digit⟩ := numeral.exists_magnitude
    rw [magnitude] at scanned ⊢
    rw [List.cons_append, scanNumber, if_neg (by simp [isSign_of_isDigit digit])]
    exact scanned

/-- All digits of the numeral. -/
def digits : List Char := numeral.whole ++ numeral.fraction.getD []

/-- **The value of a numeral** is that of its digits, moved behind the point. -/
theorem numeralValue_text (exponent : Int) :
    numeralValue numeral.text exponent = signedFloat numeral.negative
      (scientificFloat (digitsValue numeral.digits)
        (exponent - (numeral.fraction.getD []).length)) := by
  obtain ⟨c, cs, starts, digit⟩ := numeral.exists_magnitude
  have notSign := isSign_of_isDigit digit
  have sign : numeral.text.head? = some '-' ↔ numeral.negative = true := by
    rw [text]
    split
    · rename_i negative
      simp [negative]
    · rename_i positive
      rw [starts]
      simp only [List.head?_cons, Option.some.injEq, positive]
      refine iff_of_false ?_ (by simp)
      rintro rfl
      cases digit
  have body : numeral.text.dropWhile isSign = numeral.magnitude := by
    rw [text]
    split
    · rw [List.dropWhile_cons_of_pos rfl, starts, List.dropWhile_cons_of_neg (by simp [notSign])]
    · rw [starts, List.dropWhile_cons_of_neg (by simp [notSign])]
  have parts : numeral.magnitude.takeWhile isDecimalDigit = numeral.whole ∧
      (numeral.magnitude.dropWhile isDecimalDigit).drop 1 = numeral.fraction.getD [] := by
    rw [magnitude]
    split
    · rename_i noPoint
      have ends : DigitsEnd [] := by
        intro c head
        cases head
      have taken := takeWhile_digits numeral.wholeDigits ends
      have dropped := dropWhile_digits numeral.wholeDigits ends
      rw [List.append_nil] at taken dropped
      rw [taken, dropped, noPoint]
      exact ⟨rfl, rfl⟩
    · rename_i fraction point
      have ends : DigitsEnd ('.' :: fraction) := by
        intro c head
        cases head
        rfl
      rw [takeWhile_digits numeral.wholeDigits ends, dropWhile_digits numeral.wholeDigits ends,
        point]
      exact ⟨rfl, rfl⟩
  rw [numeralValue, body, parts.1, parts.2, digits]
  congr 1
  cases negative : numeral.negative <;> simp [sign, negative]

end PlainNumeral

end SheetExport
