/-
**Decimal numbers are read as the nearest float.**

A coefficient times a power of ten is read in one of several ways: as a product or a quotient of
two floats if both of these are exact, and else in natural numbers. Each of them gives the nearest
float (`mul_eq`, `div_eq`, `ofScientific_eq`), so what is read depends on the number alone.

* `scientificFloat_congr`: equal numbers are read the same;
* `scientificFloat_of_near`: a number near to a float is read as that float.
-/

import SheetExport.Number.Numeral
import SheetExport.Proofs.Number.Rounding

namespace SheetExport.Binary64

open Float.Model (UnpackedFloat totalExponent)
open Float.Model.UnpackedFloat (Sign Accuracy ExtendedMantissa decreaseExponent roundWithAccuracy)

/-! ### Products and quotients -/

section Operations

variable {q : ℚ} {m m₁ m₂ : ℕ} {e e₁ e₂ : ℤ} {s s₁ s₂ : Sign}

/-- A mantissa with all its bits is on a grid that is fine enough. -/
theorem le_gridExponent (bits : 2 ^ 52 ≤ m) : e ≤ gridExponent ((m : ℚ) * 2 ^ e) := by
  have some : 0 < m := lt_of_lt_of_le (by norm_num) bits
  have unit : (0 : ℚ) < 2 ^ e := zpow_pos (by norm_num) e
  have log := log_of_mantissa some (le_refl ((m : ℚ) * 2 ^ e)) (by linarith)
  have count : 52 ≤ m.log2 := (Nat.le_log2 some.ne').mpr bits
  unfold gridExponent
  omega

theorem describes_value (m : ℕ) (e : ℤ) :
    Describes (.ofMantissaAndAccuracy m .exact) ((m : ℚ) * 2 ^ e / 2 ^ e) := by
  rw [mul_div_cancel_right₀ _ (zpow_ne_zero e (by norm_num))]
  exact describes_exact m

theorem mul_eq {positive₁ : 0 < m₁} {positive₂ : 0 < m₂} (bits : 2 ^ 52 ≤ m₁ * m₂) :
    UnpackedFloat.mul format (.finite s₁ m₁ e₁ positive₁) (.finite s₂ m₂ e₂ positive₂) =
      nearest (s₁ * s₂) ((m₁ * 2 ^ e₁) * (m₂ * 2 ^ e₂)) := by
  have value : ((m₁ : ℚ) * 2 ^ e₁) * (m₂ * 2 ^ e₂) = (m₁ * m₂ : ℕ) * 2 ^ (e₁ + e₂) := by
    rw [zpow_add₀ (by norm_num)]
    push_cast
    ring
  rw [value]
  refine roundWithAccuracy_eq _ ?_ (describes_value _ _) (le_gridExponent bits)
  exact value_pos (Nat.mul_pos positive₁ positive₂) _

theorem shiftLeft_mul_zpow (m places : ℕ) (e : ℤ) :
    ((m <<< places : ℕ) : ℚ) * 2 ^ (e - places) = m * 2 ^ e := by
  rw [Nat.shiftLeft_eq, zpow_sub₀ (by norm_num), zpow_natCast]
  push_cast
  field_simp

/-- A natural number times a power of two is rounded to the nearest float. -/
theorem round_eq (s : Sign) (some : 0 < m) (e : ℤ) :
    UnpackedFloat.round format s m e = nearest s (m * 2 ^ e) := by
  have unit : (0 : ℚ) < 2 ^ e := zpow_pos (by norm_num) e
  have positive := value_pos some e
  have target := targetExponent_eq positive (le_refl _) (by linarith) (Or.inl some)
  unfold UnpackedFloat.round decreaseExponent
  simp only [target]
  have value := shiftLeft_mul_zpow m (e - gridExponent (m * 2 ^ e)).toNat e
  refine roundWithAccuracy_eq s positive ?_ (by omega)
  have described := describes_value (m <<< (e - gridExponent ((m : ℚ) * 2 ^ e)).toNat)
    (e - (e - gridExponent ((m : ℚ) * 2 ^ e)).toNat)
  rwa [value] at described

/-- The logarithm of a quotient is that of the parts, or one less. -/
theorem le_log_div (positive₁ : 0 < m₁) (positive₂ : 0 < m₂) (e₁ e₂ : ℤ) :
    (m₁.log2 + e₁ : ℤ) - (m₂.log2 + e₂) - 1 ≤ Int.log 2 ((m₁ * 2 ^ e₁ : ℚ) / (m₂ * 2 ^ e₂)) := by
  have unit₁ : (0 : ℚ) < 2 ^ e₁ := zpow_pos (by norm_num) e₁
  have unit₂ : (0 : ℚ) < 2 ^ e₂ := zpow_pos (by norm_num) e₂
  have some₁ : (0 : ℚ) < m₁ := by exact_mod_cast positive₁
  have some₂ : (0 : ℚ) < m₂ := by exact_mod_cast positive₂
  refine (Int.zpow_le_iff_le_log (by norm_num) (by positivity)).mp ?_
  rw [le_div_iff₀ (by positivity)]
  have lower : (2 : ℚ) ^ m₁.log2 ≤ m₁ := by exact_mod_cast Nat.log2_self_le positive₁.ne'
  have upper : (m₂ : ℚ) ≤ 2 ^ (m₂.log2 + 1) := by exact_mod_cast Nat.lt_log2_self.le
  have split : (2 : ℚ) ^ ((m₁.log2 + e₁ : ℤ) - (m₂.log2 + e₂) - 1) *
      (2 ^ (m₂.log2 + 1) * 2 ^ e₂) = 2 ^ m₁.log2 * 2 ^ e₁ := by
    rw [← zpow_natCast, ← zpow_natCast, ← zpow_add₀ (by norm_num), ← zpow_add₀ (by norm_num),
      ← zpow_add₀ (by norm_num)]
    congr 1
    push_cast
    ring
  calc _ ≤ (2 : ℚ) ^ ((m₁.log2 + e₁ : ℤ) - (m₂.log2 + e₂) - 1) * (2 ^ (m₂.log2 + 1) * 2 ^ e₂) := by
        rw [Nat.cast_ofNat]
        gcongr
    _ = 2 ^ m₁.log2 * 2 ^ e₁ := split
    _ ≤ m₁ * 2 ^ e₁ := by gcongr

theorem targetExponent_difference :
    format.targetExponent (totalExponent m₁ e₁ - totalExponent m₂ e₂) =
      max ((m₁.log2 + e₁ : ℤ) - (m₂.log2 + e₂) - 53) (-1074) := by
  show max ((m₁.log2 : ℤ) + 1 + e₁ - (m₂.log2 + 1 + e₂) - 53) (3 - 2 ^ 10 - 53) = _
  congr 1
  omega

theorem div_eq {positive₁ : 0 < m₁} {positive₂ : 0 < m₂} :
    UnpackedFloat.div format (.finite s₁ m₁ e₁ positive₁) (.finite s₂ m₂ e₂ positive₂) =
      nearest (s₁ / s₂) ((m₁ * 2 ^ e₁) / (m₂ * 2 ^ e₂)) := by
  have some₁ : (0 : ℚ) < m₁ := by exact_mod_cast positive₁
  have some₂ : (0 : ℚ) < m₂ := by exact_mod_cast positive₂
  have log := le_log_div positive₁ positive₂ e₁ e₂
  unfold UnpackedFloat.div UnpackedFloat.divCore
  simp only
  rw [targetExponent_difference]
  generalize low : min (e₁ - e₂) (max ((m₁.log2 + e₁ : ℤ) - (m₂.log2 + e₂) - 53) (-1074)) = target
  refine roundWithAccuracy_eq _ (by positivity) ?_ ?_
  · -- On the grid of the target, the number is a quotient of natural numbers.
    have places : e₁ - e₂ = target + (e₁ - e₂ - target).toNat := by omega
    have value : (m₁ : ℚ) * 2 ^ e₁ / (m₂ * 2 ^ e₂) / 2 ^ target =
        ((m₁ <<< (e₁ - e₂ - target).toNat : ℕ) : ℚ) / m₂ := by
      rw [Nat.shiftLeft_eq]
      have exponents : (2 : ℚ) ^ e₁ = 2 ^ e₂ * (2 ^ target * 2 ^ (e₁ - e₂ - target).toNat) := by
        rw [← zpow_natCast, ← zpow_add₀ (by norm_num), ← places, ← zpow_add₀ (by norm_num)]
        congr 1
        omega
      rw [exponents]
      push_cast
      field_simp
    rw [value]
    exact describes_quotient _ positive₂
  · unfold gridExponent
    omega

end Operations

/-! ### Exact floats -/

section Exact

variable {x y : Float} {q r : ℚ} {n : ℕ}

/-- The float is exactly a positive number, with all bits of its mantissa. -/
def IsExactly (x : Float) (q : ℚ) : Prop :=
  ∃ (m : ℕ) (e : ℤ) (positive : 0 < m), unpacked x = .finite .positive m e positive ∧
    2 ^ 52 ≤ m ∧ (m : ℚ) * 2 ^ e = q

theorem IsExactly.mul (left : IsExactly x q) (right : IsExactly y r) :
    x * y = packed (nearest .positive (q * r)) := by
  obtain ⟨m₁, e₁, positive₁, unpacked₁, bits₁, rfl⟩ := left
  obtain ⟨m₂, e₂, positive₂, unpacked₂, -, rfl⟩ := right
  have bits : 2 ^ 52 ≤ m₁ * m₂ := le_trans bits₁ (Nat.le_mul_of_pos_right m₁ positive₂)
  show packed (UnpackedFloat.mul format (unpacked x) (unpacked y)) = _
  rw [unpacked₁, unpacked₂, mul_eq bits]
  rfl

theorem IsExactly.div (left : IsExactly x q) (right : IsExactly y r) :
    x / y = packed (nearest .positive (q / r)) := by
  obtain ⟨m₁, e₁, positive₁, unpacked₁, -, rfl⟩ := left
  obtain ⟨m₂, e₂, positive₂, unpacked₂, -, rfl⟩ := right
  show packed (UnpackedFloat.div format (unpacked x) (unpacked y)) = _
  rw [unpacked₁, unpacked₂, div_eq]
  rfl

/-- Shifted to its full length, a mantissa of at most fifty-three bits has all of them. -/
theorem shiftLeft_bounds (some : 0 < n) (small : n < 2 ^ 53) :
    2 ^ 52 ≤ n <<< (52 - n.log2) ∧ n <<< (52 - n.log2) < 2 ^ 53 := by
  have log : n.log2 ≤ 52 := by
    have below := (Nat.log2_lt some.ne').mpr small
    omega
  rw [Nat.shiftLeft_eq]
  constructor
  · calc 2 ^ 52 = 2 ^ n.log2 * 2 ^ (52 - n.log2) := by
          rw [← pow_add]
          congr 1
          omega
      _ ≤ n * 2 ^ (52 - n.log2) := Nat.mul_le_mul_right _ (Nat.log2_self_le some.ne')
  · calc n * 2 ^ (52 - n.log2) < 2 ^ (n.log2 + 1) * 2 ^ (52 - n.log2) :=
          Nat.mul_lt_mul_of_pos_right Nat.lt_log2_self (by positivity)
      _ = 2 ^ 53 := by
          rw [← pow_add]
          congr 1
          omega

theorem toFloat_eq (some : 0 < n) (small : n < 2 ^ 53) :
    n.toUInt64.toFloat = packed (nearest .positive n) := by
  have inWord : n.toUInt64.toNat = n := Nat.mod_eq_of_lt (by omega)
  have word : n.toUInt64.toFloat = packed (UnpackedFloat.round format .positive n 0) := by
    show packed (UnpackedFloat.normalize format n.toUInt64.toNat 0 .positive) = _
    rw [inWord]
    unfold UnpackedFloat.normalize
    have above : compare (n : ℤ) 0 = .gt := Int.compare_eq_gt.mpr (by exact_mod_cast some)
    rw [above]
    rfl
  rw [word, round_eq _ some, zpow_zero, mul_one]

/-- A natural number of at most fifty-three bits is a float. -/
theorem isExactly_toFloat (some : 0 < n) (small : n < 2 ^ 53) :
    IsExactly n.toUInt64.toFloat n := by
  obtain ⟨least, most⟩ := shiftLeft_bounds some small
  have value := shiftLeft_mul_zpow n (52 - n.log2) 0
  rw [zpow_zero, mul_one] at value
  have positive : 0 < n <<< (52 - n.log2) := lt_of_lt_of_le (by norm_num) least
  have canonical : Canonical
      (.finite .positive (n <<< (52 - n.log2)) (0 - (52 - n.log2 : ℕ)) positive) :=
    ⟨most, by omega, by omega, Or.inl least⟩
  have rounded : nearest .positive n =
      .finite .positive (n <<< (52 - n.log2)) (0 - (52 - n.log2 : ℕ)) positive := by
    refine nearest_of_near _ canonical ?_
    rw [value, sub_self, abs_zero]
    positivity
  refine ⟨_, _, positive, ?_, least, value⟩
  rw [toFloat_eq some small, rounded, unpacked_packed canonical]

/-- The magnitude of the parts of a float as a quotient. -/
theorem quotient_eq (b : Binary) :
    ((b.quotient.1 : ℕ) : ℚ) / (b.quotient.2 : ℕ) = b.mantissa * 2 ^ b.exponent := by
  have exponents : (b.exponent : ℤ) = b.exponent.toNat - ((-b.exponent).toNat : ℕ) := by omega
  unfold Binary.quotient twoPow
  simp only [Nat.pow_eq]
  conv_rhs => rw [exponents, zpow_sub₀ (by norm_num), zpow_natCast, zpow_natCast]
  push_cast
  rw [mul_div_assoc]

theorem unpacked_eq_finite {b : Binary} (parts : Binary.ofFloat? x = some b)
    (some : 0 < b.mantissa) :
    unpacked x = .finite (signOf b.negative) b.mantissa b.exponent some := by
  rw [ofFloat?_eq] at parts
  cases u : unpacked x with
  | finite s m e positive =>
    rw [u] at parts
    cases parts
    cases s <;> rfl
  | zero s =>
    rw [u] at parts
    cases parts
    exact absurd some (lt_irrefl 0)
  | _ =>
    rw [u] at parts
    cases parts

theorem binary_powersOfTen : ∀ (e : ℕ) (_ : e < Float.exactlyRepresentablePowersOfTen.size),
    ∃ b ∈ Binary.ofFloat? Float.exactlyRepresentablePowersOfTen[e],
      b.negative = false ∧ 2 ^ 52 ≤ b.mantissa ∧ b.quotient.1 = 10 ^ e * b.quotient.2 := by
  decide +kernel

/-- **The powers of ten in the table** are floats. -/
theorem isExactly_powersOfTen {e : ℕ} (inTable : e < Float.exactlyRepresentablePowersOfTen.size) :
    IsExactly Float.exactlyRepresentablePowersOfTen[e] (10 ^ e) := by
  obtain ⟨b, parts, sign, bits, quotient⟩ := binary_powersOfTen e inTable
  have some : 0 < b.mantissa := lt_of_lt_of_le (by norm_num) bits
  have unpackedTen := unpacked_eq_finite parts some
  rw [sign] at unpackedTen
  refine ⟨b.mantissa, b.exponent, some, unpackedTen, bits, ?_⟩
  have den : ((b.quotient.2 : ℕ) : ℚ) ≠ 0 := by
    unfold Binary.quotient twoPow
    simp only [Nat.pow_eq]
    positivity
  rw [← quotient_eq, quotient, div_eq_iff den]
  push_cast
  ring

end Exact

/-! ### Coefficients and exponents -/

section Decimal

variable {x : Float} {q : ℚ} {m n n₁ n₂ : ℕ} {e e₁ e₂ : ℤ}

theorem ofScientific_unpacked (some : 0 < n) (greatest : e ≤ 2048) (least : -(2048 + n.log2) ≤ e) :
    UnpackedFloat.ofScientific format n e = nearest .positive (n * 10 ^ e) := by
  have limit : (2 : ℤ) ^ format.exponentBits = 2048 := rfl
  unfold UnpackedFloat.ofScientific
  rw [dif_neg some.ne', limit, if_neg (not_lt.mpr greatest), if_neg (not_lt.mpr least)]
  by_cases whole : 0 ≤ e
  · have bits : 2 ^ 52 ≤ n <<< format.mantissaBits * 10 ^ e.toNat := by
      rw [Nat.shiftLeft_eq]
      calc 2 ^ 52 ≤ 1 * 2 ^ 53 * 1 := by norm_num
        _ ≤ n * 2 ^ 53 * 10 ^ e.toNat :=
          Nat.mul_le_mul (Nat.mul_le_mul_right _ some) (Nat.one_le_pow _ _ (by norm_num))
    have value := shiftLeft_mul_zpow n format.mantissaBits 0
    rw [zpow_zero, mul_one, zero_sub] at value
    have power : (10 : ℚ) ^ e.toNat = 10 ^ e := by rw [← zpow_natCast, Int.toNat_of_nonneg whole]
    rw [if_pos whole, mul_eq bits, value, zpow_zero, mul_one, Nat.cast_pow, Nat.cast_ofNat, power]
    rfl
  · have power : (10 : ℚ) ^ e = (10 ^ (-e).toNat)⁻¹ := by
      rw [← zpow_natCast, ← zpow_neg, Int.toNat_of_nonneg (by omega), neg_neg]
    rw [if_neg whole, div_eq, zpow_zero, mul_one, mul_one, Nat.cast_pow, Nat.cast_ofNat, power,
      ← div_eq_mul_inv]
    rfl

/-- **A coefficient with an exponent** is read as the nearest float. -/
theorem ofScientific_eq (some : 0 < n) (greatest : e ≤ 2048) (least : -(2048 + n.log2) ≤ e) :
    Float.ofScientific n (decide (e < 0)) e.natAbs = packed (nearest .positive (n * 10 ^ e)) := by
  unfold Float.ofScientific
  by_cases short : n < 2 ^ 53 ∧ e.natAbs ≤ 22
  · have inTable : e.natAbs < Float.exactlyRepresentablePowersOfTen.size :=
      Nat.lt_succ_of_le short.2
    have coefficient := isExactly_toFloat some short.1
    have power := isExactly_powersOfTen inTable
    rw [dif_pos short]
    by_cases negative : e < 0
    · have inverse : (10 : ℚ) ^ e = (10 ^ e.natAbs)⁻¹ := by
        rw [← zpow_natCast, ← zpow_neg]
        congr 1
        omega
      rw [if_pos (decide_eq_true negative), coefficient.div power, inverse, ← div_eq_mul_inv]
    · have same : (10 : ℚ) ^ e = 10 ^ e.natAbs := by
        rw [← zpow_natCast]
        congr 1
        omega
      rw [if_neg (by simpa using negative), coefficient.mul power, same]
  · rw [dif_neg short, ← ofScientific_unpacked some greatest least]
    have exponent : (if decide (e < 0) = true then Int.negOfNat e.natAbs else Int.ofNat e.natAbs) =
        e := by
      by_cases negative : e < 0
      · rw [if_pos (decide_eq_true negative), Int.negOfNat_eq, Int.ofNat_eq_natCast]
        omega
      · rw [if_neg (by simpa using negative), Int.ofNat_eq_natCast]
        omega
    simp only [exponent]
    rfl

/-- The digits of a number are as many as its magnitude asks for. -/
theorem digitCount_bounds (some : 0 < n) :
    0 < digitCount n ∧ 10 ^ (digitCount n - 1) ≤ n ∧ n < 10 ^ digitCount n := by
  have count : 0 < digitCount n := Nat.length_toDigits_pos
  refine ⟨count, ?_, (Nat.length_toDigits_le_iff (by decide) count).mp (le_refl _)⟩
  by_cases one : digitCount n = 1
  · rw [one]
    exact some
  · by_contra below
    have fewer := (Nat.length_toDigits_le_iff (n := n) (by decide : 1 < 10)
      (by omega : 0 < digitCount n - 1)).mpr (not_le.mp below)
    unfold digitCount at fewer count
    omega

theorem log_scientific (some : 0 < n) (e : ℤ) :
    Int.log 10 ((n : ℚ) * 10 ^ e) + 1 = e + digitCount n := by
  obtain ⟨count, least, most⟩ := digitCount_bounds some
  have unit : (0 : ℚ) < 10 ^ e := zpow_pos (by norm_num) e
  have log : Int.log 10 ((n : ℚ) * 10 ^ e) = (digitCount n - 1 : ℕ) + e := by
    refine log_eq (by norm_num) ?_ ?_
    · have lower : (10 : ℚ) ^ (digitCount n - 1) ≤ n := by exact_mod_cast least
      rw [Nat.cast_ofNat, zpow_add₀ (by norm_num), zpow_natCast]
      exact mul_le_mul_of_nonneg_right lower unit.le
    · have upper : (n : ℚ) < 10 ^ digitCount n := by exact_mod_cast most
      have exponent : ((digitCount n - 1 : ℕ) : ℤ) + e + 1 = digitCount n + e := by omega
      rw [Nat.cast_ofNat, exponent, zpow_add₀ (by norm_num), zpow_natCast]
      exact mul_lt_mul_of_pos_right upper unit
  omega

theorem decimal_pos_iff : (0 : ℚ) < n * 10 ^ e ↔ 0 < n := by
  rw [mul_pos_iff_of_pos_right (zpow_pos (by norm_num) e), Nat.cast_pos]

/-- The float that a positive number is read as. -/
def decimalFloat (q : ℚ) : Float :=
  let leading := Int.log 10 q + 1
  if leading < floatExponents.1 then 0.0
  else if floatExponents.2 < leading then 1.0 / 0.0
  else packed (nearest .positive q)

theorem scientificFloat_eq (some : 0 < n) (e : ℤ) :
    scientificFloat n e = decimalFloat (n * 10 ^ e) := by
  have leading := log_scientific some e
  unfold scientificFloat decimalFloat
  simp only [leading, some.ne', false_or]
  by_cases under : e + digitCount n < floatExponents.1
  · rw [if_pos under, if_pos under]
  · rw [if_neg under, if_neg under]
    by_cases beyond : floatExponents.2 < e + digitCount n
    · rw [if_pos beyond, if_pos beyond]
    · rw [if_neg beyond, if_neg beyond]
      obtain ⟨count, power, -⟩ := digitCount_bounds some
      have binary : digitCount n - 1 ≤ n.log2 :=
        (Nat.le_log2 some.ne').mpr
          (le_trans (Nat.pow_le_pow_left (by norm_num : 2 ≤ 10) _) power)
      simp only [floatExponents] at under beyond
      exact ofScientific_eq some (by omega) (by omega)

/-- **Equal numbers are read the same.** -/
theorem scientificFloat_congr (same : (n₁ : ℚ) * 10 ^ e₁ = n₂ * 10 ^ e₂) :
    scientificFloat n₁ e₁ = scientificFloat n₂ e₂ := by
  have both : 0 < n₁ ↔ 0 < n₂ := by rw [← decimal_pos_iff (e := e₁), same, decimal_pos_iff]
  by_cases some : 0 < n₁
  · rw [scientificFloat_eq some, scientificFloat_eq (both.mp some), same]
  · have none₁ : n₁ = 0 := Nat.eq_zero_of_not_pos some
    have none₂ : n₂ = 0 := Nat.eq_zero_of_not_pos (mt both.mpr some)
    unfold scientificFloat
    simp [none₁, none₂]

theorem leading_bounds (least : (2 : ℚ) ^ (-1075 : ℤ) ≤ q) (most : q < 2 ^ (1025 : ℤ)) :
    floatExponents.1 ≤ Int.log 10 q + 1 ∧ Int.log 10 q + 1 ≤ floatExponents.2 := by
  have positive : 0 < q := lt_of_lt_of_le (zpow_pos (by norm_num) _) least
  have small : (10 : ℚ) ^ (-331 : ℤ) ≤ 2 ^ (-1075 : ℤ) := by
    have powers : 2 ^ 1075 ≤ 10 ^ 331 := by decide +kernel
    rw [zpow_neg, zpow_neg]
    refine inv_anti₀ (zpow_pos (by norm_num) _) ?_
    exact_mod_cast powers
  have great : (2 : ℚ) ^ (1025 : ℤ) ≤ 10 ^ (310 : ℤ) := by
    have powers : 2 ^ 1025 ≤ 10 ^ 310 := by decide +kernel
    exact_mod_cast powers
  have lower := (Int.zpow_le_iff_le_log (b := 10) (by norm_num) positive).mp
    (by rw [Nat.cast_ofNat]; exact le_trans small least)
  have upper := (Int.lt_zpow_iff_log_lt (b := 10) (by norm_num) positive).mp
    (by rw [Nat.cast_ofNat]; exact lt_of_lt_of_le most great)
  unfold floatExponents
  constructor <;> simp only <;> omega

/-- **A number near to a float is read as that float**: one that differs by less than a part in
`2 ^ 54`. -/
theorem unpacked_scientificFloat {positive : 0 < m}
    (canonical : Canonical (.finite .positive m e positive)) {k : ℤ}
    (near : |(n : ℚ) * 10 ^ k - m * 2 ^ e| < m * 2 ^ e / 2 ^ 54) :
    unpacked (scientificFloat n k) = .finite .positive m e positive := by
  have rounded := nearest_of_near .positive canonical near
  obtain ⟨inGrid, least, greatest, -⟩ := id canonical
  have unit : (0 : ℚ) < 2 ^ e := zpow_pos (by norm_num) e
  have atLeast : (2 : ℚ) ^ e ≤ m * 2 ^ e := by
    refine le_mul_of_one_le_left unit.le ?_
    exact_mod_cast positive
  obtain ⟨lower, upper⟩ := abs_lt.mp near
  have half : (2 : ℚ) ^ e / 2 ≤ n * 10 ^ k := by linarith
  have twice : (n : ℚ) * 10 ^ k < 2 ^ 54 * 2 ^ e := by
    have mantissa : (m : ℚ) < 2 ^ 53 := by exact_mod_cast inGrid
    have below : (m : ℚ) * 2 ^ e < 2 ^ 53 * 2 ^ e := mul_lt_mul_of_pos_right mantissa unit
    linarith
  have bounds : floatExponents.1 ≤ Int.log 10 ((n : ℚ) * 10 ^ k) + 1 ∧
      Int.log 10 ((n : ℚ) * 10 ^ k) + 1 ≤ floatExponents.2 := by
    refine leading_bounds (le_trans ?_ half) (lt_of_lt_of_le twice ?_)
    · rw [div_eq_mul_inv, ← zpow_sub_one₀ (by norm_num)]
      exact zpow_le_zpow_right₀ (by norm_num) (by omega)
    · rw [← zpow_natCast, ← zpow_add₀ (by norm_num)]
      exact zpow_le_zpow_right₀ (by norm_num) (by push_cast; omega)
  have some : 0 < n := decimal_pos_iff.mp (by linarith : (0 : ℚ) < n * 10 ^ k)
  rw [scientificFloat_eq some]
  unfold decimalFloat
  simp only
  rw [if_neg (not_lt.mpr bounds.1), if_neg (not_lt.mpr bounds.2), rounded,
    unpacked_packed canonical]

end Decimal

end SheetExport.Binary64
