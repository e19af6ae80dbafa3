/-
**Rounding to the nearest float.**

`nearest s q` is the float nearest to a positive number `q`, with a sign `s`: on the grid of the
exponent that the number's magnitude asks for (`gridExponent`), the nearest integer, a tie going to
the even one (`nearestEven`). What is calculated with is a mantissa with two more bits;
`Describes em r` says that these tell of `r` all that rounding needs, and shifting keeps it.

* `roundWithAccuracy_eq`: what is described is rounded to the nearest float;
* `nearest_of_near`: a number that differs from a float by less than a part in `2 ^ 54` is rounded
  to it.
-/

import SheetExport.Proofs.Number.Packing

namespace SheetExport.Binary64

open Float.Model (UnpackedFloat totalExponent)
open Float.Model.UnpackedFloat (Sign Accuracy ExtendedMantissa shiftToExponent
  shiftToTargetExponent roundWithAccuracy)

/-! ### The nearest integer -/

section Integers

variable {r : ℚ} {n : ℕ}

/-- The integer nearest to a number that is not negative, a tie going to the even one. -/
def nearestEven (r : ℚ) : ℕ :=
  if r < ⌊r⌋₊ + 1 / 2 ∨ (r = ⌊r⌋₊ + 1 / 2 ∧ ⌊r⌋₊ % 2 = 0) then ⌊r⌋₊ else ⌊r⌋₊ + 1

theorem floor_eq (least : (n : ℚ) ≤ r) (most : r < n + 1) : ⌊r⌋₊ = n :=
  (Nat.floor_eq_iff (le_trans (Nat.cast_nonneg n) least)).mpr ⟨least, most⟩

/-- A number within half a unit of an integer. -/
theorem nearestEven_of_near (above : n - 1 / 2 < r) (below : r < n + 1 / 2) :
    nearestEven r = n := by
  unfold nearestEven
  by_cases reaches : (n : ℚ) ≤ r
  · rw [floor_eq reaches (by linarith), if_pos (Or.inl below)]
  · cases n with
    | zero =>
      have floor : ⌊r⌋₊ = 0 := Nat.floor_eq_zero.mpr (by push_cast at below; linarith)
      rw [floor, if_pos (Or.inl below)]
    | succ k =>
      push_cast at above reaches
      have half : (k : ℚ) + 1 / 2 < r := by linarith
      rw [floor_eq (by linarith : (k : ℚ) ≤ r) (by linarith), if_neg]
      rintro (small | ⟨tie, _⟩)
      · exact absurd small (not_lt.mpr half.le)
      · exact absurd tie half.ne'

theorem nearestEven_le (le : r ≤ n) : nearestEven r ≤ n := by
  have floor : ⌊r⌋₊ ≤ n := Nat.floor_le_of_le le
  unfold nearestEven
  split
  · exact floor
  · rename_i up
    rcases Nat.lt_or_eq_of_le floor with below | same
    · exact below
    · have small : r < ⌊r⌋₊ + 1 / 2 := by
        rw [same]
        linarith
      exact absurd (Or.inl small) up

end Integers

/-! ### Described numbers -/

section Described

variable {em : ExtendedMantissa} {r : ℚ}

/-- Half a unit, if the round bit is set. -/
def half : Bool → ℚ
  | true => 1 / 2
  | false => 0

theorem half_bounds (bit : Bool) : 0 ≤ half bit ∧ half bit ≤ 1 / 2 := by
  cases bit <;> norm_num [half]

/-- The mantissa is the whole part of the number; the round bit tells whether half a unit is
reached, and the sticky bit whether anything is left then. -/
def Describes (em : ExtendedMantissa) (r : ℚ) : Prop :=
  ∃ left : ℚ, r = em.mantissa + half em.roundBit + left ∧ 0 ≤ left ∧ left < 1 / 2 ∧
    (em.stickyBit = true ↔ left ≠ 0)

theorem Describes.bounds (describes : Describes em r) :
    (em.mantissa : ℚ) ≤ r ∧ r < em.mantissa + 1 := by
  obtain ⟨left, rfl, least, most, _⟩ := describes
  obtain ⟨zero, whole⟩ := half_bounds em.roundBit
  constructor <;> linarith

theorem Describes.floor (describes : Describes em r) : ⌊r⌋₊ = em.mantissa :=
  floor_eq describes.bounds.1 describes.bounds.2

/-- One place fewer keeps the description. -/
theorem Describes.shiftRightOne (describes : Describes em r) :
    Describes em.shiftRightOne (r / 2) := by
  obtain ⟨mantissa, roundBit, stickyBit⟩ := em
  obtain ⟨left, rfl, least, most, sticky⟩ := describes
  obtain ⟨zero, whole⟩ := half_bounds roundBit
  have parts : (mantissa : ℚ) / 2 = (mantissa / 2 : ℕ) + half (mantissa % 2 != 0) := by
    have halves : (mantissa : ℚ) = 2 * (mantissa / 2 : ℕ) + (mantissa % 2 : ℕ) := by
      exact_mod_cast (Nat.div_add_mod mantissa 2).symm
    rw [halves]
    rcases Nat.mod_two_eq_zero_or_one mantissa with even | odd
    · rw [even]
      norm_num [half]
    · rw [odd]
      show (2 * ((mantissa / 2 : ℕ) : ℚ) + (1 : ℕ)) / 2 = (mantissa / 2 : ℕ) + 1 / 2
      push_cast
      ring
  refine ⟨(half roundBit + left) / 2, ?_, by linarith, by linarith, ?_⟩
  · show (mantissa + half roundBit + left) / 2 =
      ((mantissa / 2 : ℕ) : ℚ) + half (mantissa % 2 != 0) + (half roundBit + left) / 2
    rw [← parts]
    ring
  · show (roundBit || stickyBit) = true ↔ _
    rw [Bool.or_eq_true, sticky]
    cases roundBit with
    | false => simp [half]
    | true =>
      refine iff_of_true (Or.inl rfl) ?_
      norm_num [half]
      linarith

theorem Describes.shiftRight (describes : Describes em r) (places : ℕ) :
    Describes (em >>> places) (r / 2 ^ places) := by
  change Describes (places.repeat ExtendedMantissa.shiftRightOne em) _
  induction places with
  | zero => simpa [Nat.repeat] using describes
  | succ places ih =>
    rw [pow_succ, ← div_div]
    exact ih.shiftRightOne

/-- **A described number is rounded** to the nearest integer. -/
theorem Describes.roundedMantissa (describes : Describes em r) :
    em.roundedMantissa = nearestEven r := by
  have floor := describes.floor
  unfold nearestEven
  rw [floor]
  obtain ⟨mantissa, roundBit, stickyBit⟩ := em
  obtain ⟨left, rfl, least, most, sticky⟩ := describes
  cases roundBit with
  | false =>
    rw [if_pos (Or.inl (by simp only [half]; linarith))]
    cases stickyBit <;> rfl
  | true =>
    cases stickyBit with
    | false =>
      have tie : left = 0 := by simpa using sticky
      show mantissa + mantissa % 2 = _
      by_cases even : mantissa % 2 = 0
      · rw [if_pos (Or.inr ⟨by rw [tie, half, add_zero], even⟩), even, Nat.add_zero]
      · rw [if_neg, Nat.mod_two_ne_zero.mp even]
        rintro (small | ⟨_, isEven⟩)
        · simp only [tie, half] at small
          linarith
        · exact even isEven
    | true =>
      have more : 0 < left := lt_of_le_of_ne least (Ne.symm (sticky.mp rfl))
      show mantissa + 1 = _
      rw [if_neg]
      rintro (small | ⟨tie, _⟩)
      · simp only [half] at small
        linarith
      · simp only [half] at tie
        linarith

end Described

/-- A mantissa that is exact. -/
theorem describes_exact (mantissa : ℕ) :
    Describes (.ofMantissaAndAccuracy mantissa .exact) mantissa :=
  ⟨0, by simp [ExtendedMantissa.ofMantissaAndAccuracy, half], le_refl _, by norm_num,
    by simp [ExtendedMantissa.ofMantissaAndAccuracy]⟩

theorem div_eq_div_add_mod (num : ℕ) {den : ℕ} (positive : 0 < den) :
    (num : ℚ) / den = (num / den : ℕ) + (num % den : ℕ) / den := by
  have unit : (den : ℚ) ≠ 0 := by exact_mod_cast positive.ne'
  rw [div_eq_iff unit, add_mul, div_mul_cancel₀ _ unit, mul_comm]
  exact_mod_cast (Nat.div_add_mod num den).symm

/-- The whole part of a quotient with the accuracy of what remains. -/
theorem describes_quotient (num : ℕ) {den : ℕ} (positive : 0 < den) :
    Describes (.ofMantissaAndAccuracy (num / den)
      (UnpackedFloat.accuracyOfFraction (num % den) den)) (num / den) := by
  have unit : (0 : ℚ) < den := by exact_mod_cast positive
  rw [div_eq_div_add_mod num positive]
  generalize num / den = whole
  have below := Nat.mod_lt num positive
  generalize num % den = rest at below
  unfold UnpackedFloat.accuracyOfFraction
  by_cases none : rest = 0
  · subst none
    rw [if_pos rfl, Nat.cast_zero, zero_div, add_zero]
    exact describes_exact whole
  · rw [if_neg none]
    have some : (0 : ℚ) < rest / den := div_pos (by exact_mod_cast Nat.pos_of_ne_zero none) unit
    cases order : compare (2 * rest) den with
    | lt =>
      have less : 2 * rest < den := Nat.compare_eq_lt.mp order
      refine ⟨rest / den, ?_, some.le, ?_, iff_of_true rfl some.ne'⟩
      · show _ = (whole : ℚ) + 0 + _
        rw [add_zero]
      · rw [div_lt_div_iff₀ unit (by norm_num), one_mul, mul_comm]
        exact_mod_cast less
    | eq =>
      have tie : 2 * rest = den := Nat.compare_eq_eq.mp order
      refine ⟨0, ?_, le_refl _, by norm_num, iff_of_false Bool.false_ne_true (by simp)⟩
      have middle : (rest : ℚ) / den = 1 / 2 := by
        rw [div_eq_div_iff unit.ne' (by norm_num), one_mul, mul_comm]
        exact_mod_cast tie
      rw [middle, add_zero]
      rfl
    | gt =>
      have more : den < 2 * rest := Nat.compare_eq_gt.mp order
      have upper : (rest : ℚ) / den < 1 := (div_lt_one unit).mpr (by exact_mod_cast below)
      have lower : 1 / 2 < (rest : ℚ) / den := by
        rw [div_lt_div_iff₀ (by norm_num) unit, one_mul, mul_comm]
        exact_mod_cast more
      refine ⟨rest / den - 1 / 2, ?_, by linarith, by linarith, iff_of_true rfl (by linarith)⟩
      show _ = (whole : ℚ) + 1 / 2 + _
      ring

/-! ### The grid of floats -/

section Grid

variable {q : ℚ} {m : ℕ} {e : ℤ}

/-- Between two neighbouring powers, the logarithm is that of the lower one. -/
theorem log_eq {b : ℕ} {k : ℤ} (base : 1 < b) (least : (b : ℚ) ^ k ≤ q)
    (most : q < (b : ℚ) ^ (k + 1)) : Int.log b q = k := by
  have positive : 0 < q := lt_of_lt_of_le (zpow_pos (by exact_mod_cast (by omega : 0 < b)) k) least
  have atLeast := (Int.zpow_le_iff_le_log base positive).mp least
  have below := (Int.lt_zpow_iff_log_lt base positive).mp most
  omega

theorem value_pos (positive : 0 < m) (e : ℤ) : (0 : ℚ) < m * 2 ^ e :=
  mul_pos (Nat.cast_pos.mpr positive) (zpow_pos (by norm_num) e)

/-- The exponent of the grid on which floats of a magnitude stand. -/
def gridExponent (q : ℚ) : ℤ := max (Int.log 2 q - 52) (-1074)

theorem targetExponent_totalExponent (m : ℕ) (e : ℤ) :
    format.targetExponent (totalExponent m e) = max (m.log2 + e - 52) (-1074) := by
  show max ((m.log2 : ℤ) + 1 + e - 53) (3 - 2 ^ 10 - 53) = _
  congr 1
  omega

theorem log_of_mantissa (some : 0 < m) (least : m * 2 ^ e ≤ q) (most : q < (m + 1) * 2 ^ e) :
    Int.log 2 q = m.log2 + e := by
  have unit : (0 : ℚ) < 2 ^ e := zpow_pos (by norm_num) e
  refine log_eq (by norm_num) ?_ ?_
  · have power : (2 : ℚ) ^ m.log2 ≤ m := by exact_mod_cast Nat.log2_self_le some.ne'
    rw [Nat.cast_ofNat, zpow_add₀ (by norm_num), zpow_natCast]
    exact le_trans (mul_le_mul_of_nonneg_right power unit.le) least
  · have power : (m : ℚ) + 1 ≤ 2 ^ (m.log2 + 1) := by exact_mod_cast Nat.lt_log2_self
    have exponent : (m.log2 : ℤ) + e + 1 = (m.log2 + 1 : ℕ) + e := by omega
    rw [Nat.cast_ofNat, exponent, zpow_add₀ (by norm_num), zpow_natCast]
    exact lt_of_lt_of_le most (mul_le_mul_of_nonneg_right power unit.le)

/-- The exponent that rounding aims at is that of the grid. -/
theorem targetExponent_eq (positive : 0 < q) (least : m * 2 ^ e ≤ q) (most : q < (m + 1) * 2 ^ e)
    (low : 0 < m ∨ e ≤ gridExponent q) :
    format.targetExponent (totalExponent m e) = gridExponent q := by
  rw [targetExponent_totalExponent]
  rcases Nat.eq_zero_or_pos m with rfl | some
  · have onGrid := low.resolve_left (lt_irrefl 0)
    have below : Int.log 2 q < e := by
      refine (Int.lt_zpow_iff_log_lt (by norm_num) positive).mp ?_
      rw [Nat.cast_zero, zero_add, one_mul] at most
      exact most
    unfold gridExponent at onGrid ⊢
    simp only [Nat.log2_zero, Nat.cast_zero]
    omega
  · unfold gridExponent
    rw [log_of_mantissa some least most]

/-- A mantissa on a grid; one that is beyond the grid goes to the next one. -/
def onGrid (s : Sign) (mantissa : ℕ) (exponent : ℤ) : UnpackedFloat :=
  if mantissa = 2 ^ 53 then .finite s (2 ^ 52) (exponent + 1) (by decide)
  else if positive : 0 < mantissa then .finite s mantissa exponent positive
  else .zero s

/-- The float nearest to a positive number, with a sign. -/
def nearest (s : Sign) (q : ℚ) : UnpackedFloat :=
  onGrid s (nearestEven (q / 2 ^ gridExponent q)) (gridExponent q)

theorem nearestEven_le_pow (q : ℚ) :
    nearestEven (q / 2 ^ gridExponent q) ≤ 2 ^ 53 := by
  have unit : (0 : ℚ) < 2 ^ gridExponent q := zpow_pos (by norm_num) _
  have top : ((2 ^ 53 : ℕ) : ℚ) = (2 : ℚ) ^ (53 : ℤ) := by norm_num
  refine nearestEven_le ?_
  rw [div_le_iff₀ unit, top, ← zpow_add₀ (by norm_num)]
  have below := Int.lt_zpow_succ_log_self (b := 2) (by norm_num) q
  refine le_trans below.le (zpow_le_zpow_right₀ (by norm_num) ?_)
  unfold gridExponent
  omega

/-- A rounded mantissa is shifted once more if it is beyond the grid. -/
theorem shiftToTargetExponent_rounded {exponent : ℤ} (least : -1074 ≤ exponent)
    (inGrid : m ≤ 2 ^ 53) :
    (shiftToTargetExponent format m exponent .exact).1.mantissa =
        (if m = 2 ^ 53 then 2 ^ 52 else m) ∧
      (shiftToTargetExponent format m exponent .exact).2 =
        if m = 2 ^ 53 then exponent + 1 else exponent := by
  unfold shiftToTargetExponent shiftToExponent
  rw [targetExponent_totalExponent]
  by_cases beyond : m = 2 ^ 53
  · have places : (max ((m.log2 : ℤ) + exponent - 52) (-1074) - exponent).toNat = 1 := by
      rw [beyond, Nat.log2_two_pow]
      omega
    simp only [places, if_pos beyond]
    refine ⟨?_, rfl⟩
    show m / 2 = 2 ^ 52
    rw [beyond]
    rfl
  · have places : (max ((m.log2 : ℤ) + exponent - 52) (-1074) - exponent).toNat = 0 := by
      have small : m.log2 ≤ 52 := by
        rcases Nat.eq_zero_or_pos m with rfl | some
        · decide
        · have below := (Nat.log2_lt some.ne').mpr (Nat.lt_of_le_of_ne inGrid beyond)
          omega
      omega
    simp only [places, if_neg beyond]
    exact ⟨rfl, Int.add_zero _⟩

/-- What the last shift leaves is the mantissa on the grid. -/
theorem eq_onGrid (s : Sign) {em : ExtendedMantissa} {exponent : ℤ}
    (mantissa : em.mantissa = if m = 2 ^ 53 then 2 ^ 52 else m)
    (shifted : exponent = if m = 2 ^ 53 then e + 1 else e) :
    (if none : em.mantissa = 0 then UnpackedFloat.zero s
      else .finite s em.mantissa exponent (Nat.pos_of_ne_zero none)) = onGrid s m e := by
  unfold onGrid
  by_cases beyond : m = 2 ^ 53
  · rw [if_pos beyond] at mantissa shifted
    rw [if_pos beyond, dif_neg (by rw [mantissa]; decide)]
    simp only [mantissa, shifted]
  · rw [if_neg beyond] at mantissa shifted
    rw [if_neg beyond]
    by_cases some : 0 < m
    · rw [dif_pos some, dif_neg (by omega)]
      simp only [mantissa, shifted]
    · rw [dif_neg some, dif_pos (by omega)]

/-- **What is described is rounded** to the nearest float. -/
theorem roundWithAccuracy_eq (s : Sign) {accuracy : Accuracy} (positive : 0 < q)
    (describes : Describes (.ofMantissaAndAccuracy m accuracy) (q / 2 ^ e))
    (low : e ≤ gridExponent q) : roundWithAccuracy format s m e accuracy = nearest s q := by
  have unit : (0 : ℚ) < 2 ^ e := zpow_pos (by norm_num) e
  have mantissa : (ExtendedMantissa.ofMantissaAndAccuracy m accuracy).mantissa = m := by
    cases accuracy with
    | exact => rfl
    | inexact order => cases order <;> rfl
  obtain ⟨least, most⟩ := describes.bounds
  rw [mantissa, le_div_iff₀ unit] at least
  rw [mantissa, div_lt_iff₀ unit] at most
  have places : gridExponent q = e + (gridExponent q - e).toNat := by omega
  have shifted : shiftToTargetExponent format m e accuracy =
      (ExtendedMantissa.ofMantissaAndAccuracy m accuracy >>> (gridExponent q - e).toNat,
        gridExponent q) := by
    unfold shiftToTargetExponent shiftToExponent
    rw [targetExponent_eq positive least most (Or.inr low)]
    simp only [← places]
  have rounded := (describes.shiftRight (gridExponent q - e).toNat).roundedMantissa
  have scaled : q / 2 ^ e / 2 ^ (gridExponent q - e).toNat = q / 2 ^ gridExponent q := by
    rw [div_div, ← zpow_natCast, ← zpow_add₀ (by norm_num), ← places]
  rw [scaled] at rounded
  obtain ⟨finalMantissa, finalExponent⟩ := shiftToTargetExponent_rounded
    (le_max_right _ _ : -1074 ≤ gridExponent q) (nearestEven_le_pow q)
  unfold roundWithAccuracy
  simp only [shifted, rounded]
  exact eq_onGrid s finalMantissa finalExponent

/-- On the grid of a float, a number near to it is rounded to it. -/
theorem nearest_of_grid (s : Sign) (positive : 0 < m) (inGrid : m < 2 ^ 53)
    (grid : gridExponent q = e) (above : m - 1 / 2 < q / 2 ^ e) (below : q / 2 ^ e < m + 1 / 2) :
    nearest s q = .finite s m e positive := by
  unfold nearest onGrid
  rw [grid, nearestEven_of_near above below, if_neg inGrid.ne, dif_pos positive]

theorem gridExponent_of_normal (normal : 2 ^ 52 ≤ q / 2 ^ e) (inGrid : q / 2 ^ e < 2 ^ 53)
    (least : -1074 ≤ e) : gridExponent q = e := by
  have unit : (0 : ℚ) < 2 ^ e := zpow_pos (by norm_num) e
  have log : Int.log 2 q = 52 + e := by
    refine log_eq (by norm_num) ?_ ?_
    · rw [le_div_iff₀ unit] at normal
      push_cast
      rw [zpow_add₀ (by norm_num)]
      exact_mod_cast normal
    · rw [div_lt_iff₀ unit] at inGrid
      have exponent : (52 : ℤ) + e + 1 = 53 + e := by ring
      push_cast
      rw [exponent, zpow_add₀ (by norm_num)]
      exact_mod_cast inGrid
  unfold gridExponent
  omega

theorem gridExponent_of_least (positive : 0 < q) (inGrid : q / 2 ^ (-1074 : ℤ) < 2 ^ 53) :
    gridExponent q = -1074 := by
  have log : Int.log 2 q < -1021 := by
    refine (Int.lt_zpow_iff_log_lt (by norm_num) positive).mp ?_
    rw [div_lt_iff₀ (zpow_pos (by norm_num) _)] at inGrid
    have exponent : (-1021 : ℤ) = 53 + -1074 := by norm_num
    have top : (2 : ℚ) ^ (53 : ℤ) = 2 ^ 53 := by norm_num
    rw [Nat.cast_ofNat, exponent, zpow_add₀ (by norm_num), top]
    exact inGrid
  unfold gridExponent
  omega

/-- **A number near to a float is rounded to it**: one that differs by less than a part in
`2 ^ 54`. Below a power of two the grid is finer, so the number may be on the next grid. -/
theorem nearest_of_near (s : Sign) {positive : 0 < m}
    (canonical : Canonical (.finite s m e positive))
    (near : |q - m * 2 ^ e| < m * 2 ^ e / 2 ^ 54) : nearest s q = .finite s m e positive := by
  obtain ⟨inGrid, least, _, normal⟩ := canonical
  have unit : (0 : ℚ) < 2 ^ e := zpow_pos (by norm_num) e
  have atLeast : (1 : ℚ) ≤ m := by exact_mod_cast positive
  have atMost : (m : ℚ) ≤ 2 ^ 53 - 1 := by
    have cast : (m : ℚ) + 1 ≤ 2 ^ 53 := by exact_mod_cast inGrid
    linarith
  obtain ⟨lower, upper⟩ := abs_lt.mp near
  have above : (m : ℚ) - m / 2 ^ 54 < q / 2 ^ e := by
    rw [lt_div_iff₀ unit]
    linarith
  have below : q / 2 ^ e < m + m / 2 ^ 54 := by
    rw [div_lt_iff₀ unit]
    linarith
  have positiveQ : 0 < q := (div_pos_iff_of_pos_right unit).mp (by linarith)
  by_cases isLeast : e = -1074
  · subst isLeast
    have grid : gridExponent q = -1074 :=
      gridExponent_of_least positiveQ (by linarith)
    exact nearest_of_grid s positive inGrid grid (by linarith) (by linarith)
  · have isNormal : 2 ^ 52 ≤ m := normal.resolve_right isLeast
    by_cases reaches : 2 ^ 52 ≤ q / 2 ^ e
    · have grid := gridExponent_of_normal reaches (by linarith) least
      exact nearest_of_grid s positive inGrid grid (by linarith) (by linarith)
    · -- The float is a power of two, and the number is on the finer grid below it.
      have power : m = 2 ^ 52 := by
        have small : (m : ℚ) < 2 ^ 52 + 1 := by linarith
        have cast : m < 2 ^ 52 + 1 := by exact_mod_cast small
        omega
      have twice : q / 2 ^ (e - 1) = 2 * (q / 2 ^ e) := by
        rw [zpow_sub_one₀ (by norm_num)]
        field_simp
      have value : (m : ℚ) = 2 ^ 52 := by exact_mod_cast power
      have grid : gridExponent q = e - 1 :=
        gridExponent_of_normal (by linarith) (by linarith) (by omega)
      have rounded : nearestEven (q / 2 ^ (e - 1)) = 2 ^ 53 := by
        refine nearestEven_of_near ?_ ?_ <;> push_cast <;> linarith
      unfold nearest onGrid
      rw [grid, rounded, if_pos rfl]
      simp only [power, Int.sub_add_cancel]

end Grid

end SheetExport.Binary64
