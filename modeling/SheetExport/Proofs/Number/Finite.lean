/-
**Which numbers are within the range of floats.**

A number is rounded to a finite float just when it is less than `floatLimit`, the middle between the
greatest float and the power of two that would come next; the middle itself is a tie, which goes to
the power of two.

* `isFinite_nearest`, `isFinite_ofInt` — the limit for positive numbers and for integers;
* `sub_self`, `le_self` — what a finite float is to itself.
-/

import SheetExport.Proofs.Number.Scientific

namespace SheetExport.Binary64

open Float.Model (UnpackedFloat)
open Float.Model.UnpackedFloat (Sign)

section Limit

variable {u : UnpackedFloat} {s : Sign} {m : ℕ} {e : ℤ} {q r : ℚ} {x : Float}

/-- The least natural number that is beyond all floats. -/
def floatLimit : ℕ := 2 ^ 1024 - 2 ^ 970

theorem isFinite_eq (x : Float) : x.isFinite = (unpacked x).isFinite := rfl

theorem isFinite_packed (canonical : Canonical u) : (packed u).isFinite = u.isFinite := by
  rw [isFinite_eq, unpacked_packed canonical]

/-- Beyond the greatest exponent there is only infinity. -/
theorem isFinite_packed_beyond {positive : 0 < m} (beyond : 971 < e) :
    (packed (.finite s m e positive)).isFinite = false := by
  have full : 2 ^ format.exponentBits ≤
      (e + format.exponentBias + format.mantissaBitsWithoutImplicit).toNat + 1 := by
    show 2 ^ 11 ≤ (e + 1023 + 52).toNat + 1
    omega
  have infinite : UnpackedFloat.pack format (.finite s m e positive) =
      UnpackedFloat.pack format (.infinity s) := if_pos full
  show (UnpackedFloat.unpack format (UnpackedFloat.pack format _)).isFinite = false
  rw [infinite, unpack_pack (u := .infinity s) trivial]
  rfl

/-- A mantissa with all its bits makes a finite float up to the greatest exponent; there it must not
be rounded up to the next power of two. -/
theorem isFinite_onGrid (least : 2 ^ 52 ≤ m) (most : m ≤ 2 ^ 53) (low : -1074 ≤ e) :
    (packed (onGrid s m e)).isFinite = true ↔ e < 971 ∨ (e = 971 ∧ m ≠ 2 ^ 53) := by
  unfold onGrid
  by_cases up : m = 2 ^ 53
  · rw [if_pos up]
    by_cases inRange : e < 971
    · refine iff_of_true ?_ (Or.inl inRange)
      exact isFinite_packed ⟨by omega, by omega, by omega, Or.inl (le_refl _)⟩
    · rw [isFinite_packed_beyond (by omega)]
      exact iff_of_false Bool.false_ne_true (by omega)
  · rw [if_neg up, dif_pos (by omega)]
    by_cases inRange : e ≤ 971
    · refine iff_of_true ?_ (by omega)
      exact isFinite_packed ⟨by omega, low, inRange, Or.inl least⟩
    · rw [isFinite_packed_beyond (by omega)]
      exact iff_of_false Bool.false_ne_true (by omega)

/-- Above an odd integer, the tie goes up. -/
theorem nearestEven_eq_succ_iff (odd : m % 2 = 1) (most : r < m + 1) :
    nearestEven r = m + 1 ↔ (m : ℚ) + 1 / 2 ≤ r := by
  constructor
  · intro up
    by_contra below
    rw [not_le] at below
    rcases le_or_gt (m : ℚ) r with reaches | less
    · rw [nearestEven_of_near (by linarith) below] at up
      omega
    · have atMost := nearestEven_le less.le
      omega
  · intro least
    have floor : ⌊r⌋₊ = m := floor_eq (by linarith) most
    rw [nearestEven, floor, if_neg]
    rintro (small | ⟨-, even⟩)
    · exact absurd small (not_lt.mpr least)
    · omega

/-- The grid of a number that is not below one, which is normal. -/
theorem gridExponent_bounds (one : 1 ≤ q) :
    -52 ≤ gridExponent q ∧ 2 ^ 52 * 2 ^ gridExponent q ≤ q ∧ q < 2 ^ 53 * 2 ^ gridExponent q := by
  have positive : 0 < q := lt_of_lt_of_le one_pos one
  have log : 0 ≤ Int.log 2 q :=
    (Int.zpow_le_iff_le_log (by norm_num) positive).mp (by simpa using one)
  have grid : gridExponent q = Int.log 2 q - 52 := by
    unfold gridExponent
    omega
  have lower := Int.zpow_log_le_self (b := 2) (by norm_num) positive
  have upper := Int.lt_zpow_succ_log_self (b := 2) (by norm_num) q
  have lowPower : (2 : ℚ) ^ 52 * 2 ^ (Int.log 2 q - 52) = 2 ^ Int.log 2 q := by
    rw [← zpow_natCast, ← zpow_add₀ (by norm_num)]
    congr 1
    omega
  have highPower : (2 : ℚ) ^ 53 * 2 ^ (Int.log 2 q - 52) = 2 ^ (Int.log 2 q + 1) := by
    rw [← zpow_natCast, ← zpow_add₀ (by norm_num)]
    congr 1
    omega
  refine ⟨by omega, ?_, ?_⟩
  · rw [grid, lowPower]
    exact_mod_cast lower
  · rw [grid, highPower]
    exact_mod_cast upper

theorem floatLimit_eq : (floatLimit : ℚ) = (2 ^ 54 - 1) * 2 ^ (970 : ℤ) := by
  have product : floatLimit = (2 ^ 54 - 1) * 2 ^ 970 := by decide +kernel
  rw [product, Nat.cast_mul, Nat.cast_pow, ← zpow_natCast]
  norm_num

/-- **A number is rounded to a finite float just below the limit.** -/
theorem isFinite_nearest (s : Sign) (one : 1 ≤ q) :
    (packed (nearest s q)).isFinite = true ↔ q < floatLimit := by
  obtain ⟨low, least, most⟩ := gridExponent_bounds one
  have unit : (0 : ℚ) < 2 ^ gridExponent q := zpow_pos (by norm_num) _
  have normal : (2 : ℚ) ^ 52 ≤ q / 2 ^ gridExponent q := (le_div_iff₀ unit).mpr least
  have inGrid : q / 2 ^ gridExponent q < 2 ^ 53 := (div_lt_iff₀ unit).mpr most
  have mantissa : 2 ^ 52 ≤ nearestEven (q / 2 ^ gridExponent q) := by
    have floor : 2 ^ 52 ≤ ⌊q / 2 ^ gridExponent q⌋₊ := Nat.le_floor (by exact_mod_cast normal)
    unfold nearestEven
    split <;> omega
  have twice : (2 : ℚ) ^ (971 : ℤ) = 2 ^ (970 : ℤ) * 2 := zpow_add_one₀ (by norm_num) 970
  have fourfold : (2 : ℚ) ^ (972 : ℤ) = 2 ^ (971 : ℤ) * 2 := zpow_add_one₀ (by norm_num) 971
  rw [nearest, isFinite_onGrid mantissa (nearestEven_le_pow q) (by omega), floatLimit_eq]
  rcases lt_trichotomy (gridExponent q) 971 with below | top | above
  · have power : (2 : ℚ) ^ gridExponent q ≤ 2 ^ (970 : ℤ) :=
      zpow_le_zpow_right₀ (by norm_num) (by omega)
    refine iff_of_true (Or.inl below) ?_
    generalize (2 : ℚ) ^ (970 : ℤ) = half at power
    linarith
  · have up := nearestEven_eq_succ_iff (m := 2 ^ 53 - 1) (r := q / 2 ^ gridExponent q) (by norm_num)
      (by push_cast; linarith)
    have limit : (((2 ^ 53 - 1 : ℕ) : ℚ) + 1 / 2) * 2 ^ (971 : ℤ) = (2 ^ 54 - 1) * 2 ^ (970 : ℤ) := by
      rw [twice]
      generalize (2 : ℚ) ^ (970 : ℤ) = half
      push_cast
      ring
    rw [top] at up unit ⊢
    rw [le_div_iff₀ unit, limit] at up
    have rounded := not_congr up
    rw [not_le] at rounded
    exact ⟨fun inRange => rounded.mp (by omega), fun less => Or.inr ⟨rfl, rounded.mpr less⟩⟩
  · have power : (2 : ℚ) ^ (972 : ℤ) ≤ 2 ^ gridExponent q :=
      zpow_le_zpow_right₀ (by norm_num) (by omega)
    have positive : (0 : ℚ) < 2 ^ (970 : ℤ) := zpow_pos (by norm_num) _
    refine iff_of_false (by omega) (not_lt.mpr ?_)
    rw [fourfold, twice] at power
    generalize (2 : ℚ) ^ (970 : ℤ) = half at power positive
    linarith

end Limit

/-! ### Integers -/

theorem isFinite_ofNat (n : ℕ) : (Float.ofNat n).isFinite = true ↔ n < floatLimit := by
  rcases Nat.eq_zero_or_pos n with rfl | some
  · exact iff_of_true (by decide +kernel) (by decide +kernel)
  · have rounded : Float.ofNat n = packed (nearest .positive n) := by
      have read := ofScientific_eq some (by norm_num : (0 : ℤ) ≤ 2048) (by omega)
      rw [zpow_zero, mul_one] at read
      exact read
    rw [rounded, isFinite_nearest _ (by exact_mod_cast some), Nat.cast_lt]

theorem isFinite_neg (x : Float) : (-x).isFinite = x.isFinite := by
  rw [isFinite_eq, neg_eq, isFinite_eq]
  cases unpacked x <;> rfl

/-- **An integer is within the range of floats just below the limit**, on either side of zero. -/
theorem isFinite_ofInt (n : ℤ) : (Float.ofInt n).isFinite = true ↔ n.natAbs < floatLimit := by
  cases n with
  | ofNat n => exact isFinite_ofNat n
  | negSucc n =>
    have negated : Float.ofInt (.negSucc n) = -Float.ofNat (n + 1) := rfl
    rw [negated, isFinite_neg]
    exact isFinite_ofNat (n + 1)

/-! ### A finite float and itself -/

section Itself

variable {x : Float}

/-- A finite float less itself is zero. -/
theorem sub_self (finite : x.isFinite = true) : x - x = packed (.zero .positive) := by
  show packed (UnpackedFloat.sub format (unpacked x) (unpacked x)) = _
  rw [isFinite_eq] at finite
  revert finite
  cases unpacked x with
  | finite s m e positive =>
    intro _
    show packed (UnpackedFloat.normalize format _ _ _) = _
    rw [Int.sub_self]
    rfl
  | zero s => cases s <;> exact fun _ => rfl
  | infinity s => exact nofun
  | notANumber => exact nofun

/-- A finite float is not greater than itself. -/
theorem le_self (finite : x.isFinite = true) : x ≤ x := by
  rw [isFinite_eq] at finite
  refine decide_eq_true (?_ : (unpacked x).le (unpacked x) = true)
  revert finite
  cases unpacked x with
  | finite s m e positive =>
    intro _
    cases s <;> simp [UnpackedFloat.le, UnpackedFloat.compare]
  | zero s => cases s <;> exact fun _ => rfl
  | infinity s => exact nofun
  | notANumber => exact nofun

end Itself

end SheetExport.Binary64
