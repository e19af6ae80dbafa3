/-
**The search for the shortest text of a float.**

On every grid of decimals, the two neighbours of a number are its quotient rounded down and the
next one. On the grid of seventeen digits the nearer one is close enough to be read back as the
float, so the search always ends with a decimal (`exists_found`). What is known of that decimal is
`Found`: it reads back, and it is a neighbour of the number on a grid that the number reaches.

* `Found.pow_le`, `Found.le_double`: it is as great as the number's leading power of ten, and at
  most twice the number;
* `Found.lt_tenThousandth`: below one ten-thousandth it does not reach this either.
-/

import SheetExport.Number.Shortest
import SheetExport.Proofs.Number.Scientific

namespace SheetExport.Binary64

open Float.Model (UnpackedFloat)
open Float.Model.UnpackedFloat (Sign)

/-! ### Quotients of natural numbers -/

section Quotients

variable {num den n : ℕ} {k : ℤ}

/-- Of a quotient that reaches one, the leading power of ten is that of its whole part. -/
theorem log_of_whole (positive : 0 < den) (whole : den ≤ num) :
    Int.log 10 ((num : ℚ) / den) = digitCount (num / den) - 1 := by
  have unit : (0 : ℚ) < den := by exact_mod_cast positive
  obtain ⟨count, least, most⟩ := digitCount_bounds (Nat.div_pos whole positive)
  have lower := (Nat.le_div_iff_mul_le positive).mp least
  have upper := (Nat.div_lt_iff_lt_mul positive).mp most
  generalize digitCount (num / den) = digits at count lower upper
  refine log_eq (by norm_num) ?_ ?_
  · have exponent : (digits : ℤ) - 1 = (digits - 1 : ℕ) := by omega
    rw [exponent, zpow_natCast, le_div_iff₀ unit]
    exact_mod_cast lower
  · rw [Int.sub_add_cancel, zpow_natCast, div_lt_iff₀ unit]
    exact_mod_cast upper

/-- Of a quotient below one, it is that of the inverse, or the one below. -/
theorem log_of_proper (some : 0 < num) (proper : num < den) :
    Int.log 10 ((num : ℚ) / den) =
      if den ≤ num * tenPow (digitCount (den / num) - 1) then 1 - (digitCount (den / num) : ℤ)
      else -(digitCount (den / num) : ℤ) := by
  have unit : (0 : ℚ) < den := by exact_mod_cast lt_trans some proper
  obtain ⟨count, least, most⟩ := digitCount_bounds (Nat.div_pos proper.le some)
  have lower := (Nat.le_div_iff_mul_le some).mp least
  have upper := (Nat.div_lt_iff_lt_mul some).mp most
  generalize digitCount (den / num) = guess at count lower upper
  have power : (0 : ℚ) < 10 ^ (guess - 1) := by positivity
  have exponent : (1 : ℤ) - guess = -(guess - 1 : ℕ) := by omega
  have below : (num : ℚ) / den ≤ 10 ^ (1 - guess : ℤ) := by
    rw [exponent, zpow_neg, zpow_natCast, div_le_iff₀ unit, ← div_eq_inv_mul, le_div_iff₀ power,
      mul_comm]
    exact_mod_cast lower
  by_cases reaches : den ≤ num * tenPow (guess - 1)
  · have atLeast : den ≤ num * 10 ^ (guess - 1) := reaches
    rw [if_pos reaches]
    refine log_eq (by norm_num) ?_ (lt_of_le_of_lt below ?_)
    · rw [exponent, zpow_neg, Nat.cast_ofNat, zpow_natCast, le_div_iff₀ unit, ← div_eq_inv_mul,
        div_le_iff₀ power]
      exact_mod_cast atLeast
    · exact zpow_lt_zpow_right₀ (by norm_num) (by omega)
  · have less : num * 10 ^ (guess - 1) < den := not_le.mp reaches
    rw [if_neg reaches]
    refine log_eq (by norm_num) ?_ ?_
    · rw [zpow_neg, Nat.cast_ofNat, zpow_natCast, le_div_iff₀ unit, ← div_eq_inv_mul,
        div_le_iff₀ (by positivity), mul_comm]
      exact_mod_cast upper.le
    · have next : -(guess : ℤ) + 1 = -(guess - 1 : ℕ) := by omega
      rw [next, zpow_neg, Nat.cast_ofNat, zpow_natCast, div_lt_iff₀ unit, ← div_eq_inv_mul,
        lt_div_iff₀ power]
      exact_mod_cast less

/-- The exponent of the leading power of ten is the logarithm. -/
theorem floorLogTen_eq (some : 0 < num) (positive : 0 < den) :
    floorLogTen num den = Int.log 10 ((num : ℚ) / den) := by
  unfold floorLogTen
  by_cases whole : den ≤ num
  · rw [if_pos whole, log_of_whole positive whole]
  · rw [if_neg whole, log_of_proper some (not_le.mp whole)]

/-- Rounding a quotient moves it by at most half a unit. -/
theorem roundQuotient_near (num : ℕ) (positive : 0 < den) :
    |(roundQuotient num den : ℚ) - num / den| ≤ 1 / 2 := by
  have unit : (0 : ℚ) < den := by exact_mod_cast positive
  have below : (num % den : ℕ) / (den : ℚ) < 1 := by
    rw [div_lt_one unit]
    exact_mod_cast Nat.mod_lt num positive
  have least : 0 ≤ (num % den : ℕ) / (den : ℚ) := by positivity
  rw [div_eq_div_add_mod num positive]
  unfold roundQuotient
  simp only
  split
  · rename_i up
    have half : 1 / 2 ≤ (num % den : ℕ) / (den : ℚ) := by
      have twice : den ≤ 2 * (num % den) := by omega
      rw [div_le_div_iff₀ (by norm_num) unit, one_mul, mul_comm]
      exact_mod_cast twice
    rw [abs_le]
    push_cast
    constructor <;> linarith
  · rename_i down
    have half : (num % den : ℕ) / (den : ℚ) ≤ 1 / 2 := by
      have twice : 2 * (num % den) ≤ den := by omega
      rw [div_le_div_iff₀ unit (by norm_num), one_mul, mul_comm]
      exact_mod_cast twice
    rw [abs_le]
    constructor <;> linarith

theorem scaled_eq (num den : ℕ) (k : ℤ) :
    ((num * tenPow (-k).toNat : ℕ) : ℚ) / (den * tenPow k.toNat : ℕ) = num / den / 10 ^ k := by
  have exponents : k = k.toNat - ((-k).toNat : ℕ) := by omega
  have power : (10 : ℚ) ^ k = 10 ^ k.toNat / 10 ^ (-k).toNat := by
    conv_lhs => rw [exponents, zpow_sub₀ (by norm_num), zpow_natCast, zpow_natCast]
  rw [power]
  simp only [tenPow, Nat.pow_eq]
  push_cast
  rw [div_div_div_eq, mul_comm (den : ℚ)]

/-- The neighbours on a grid are the quotient rounded down and the next number. -/
theorem floor_of_mem_gridNeighbours (member : n ∈ gridNeighbours num den k) :
    n = ⌊(num : ℚ) / den / 10 ^ k⌋₊ ∨ n = ⌊(num : ℚ) / den / 10 ^ k⌋₊ + 1 := by
  rw [← scaled_eq, Nat.floor_div_eq_div]
  unfold gridNeighbours at member
  simp only at member
  split at member <;>
    simp only [List.mem_cons, List.not_mem_nil, or_false] at member <;> omega

/-- One of the neighbours is at most half a unit away. -/
theorem exists_gridNeighbour (num : ℕ) (positive : 0 < den) (k : ℤ) :
    ∃ n ∈ gridNeighbours num den k, |(n : ℚ) - num / den / 10 ^ k| ≤ 1 / 2 := by
  have unit : 0 < den * tenPow k.toNat := Nat.mul_pos positive (Nat.pow_pos (by norm_num))
  have near := roundQuotient_near (num * tenPow (-k).toNat) unit
  rw [scaled_eq] at near
  refine ⟨_, ?_, near⟩
  unfold gridNeighbours
  simp only
  by_cases down : roundQuotient (num * tenPow (-k).toNat) (den * tenPow k.toNat) =
      num * tenPow (-k).toNat / (den * tenPow k.toNat)
  · rw [if_pos down, down]
    exact List.mem_cons_self
  · rw [if_neg down]
    refine List.mem_cons.mpr (Or.inl ?_)
    unfold roundQuotient at down ⊢
    simp only at down ⊢
    split
    · rfl
    · rename_i stays
      rw [if_neg stays] at down
      exact absurd rfl down

end Quotients

/-! ### What the search finds -/

section Search

variable {x : Float} {v : ℚ} {m n num den : ℕ} {e k : ℤ}

/-- A decimal that the search may find for a positive number. -/
structure Found (x : Float) (v : ℚ) (n : ℕ) (k : ℤ) : Prop where
  readsBack : (scientificFloat n k == x) = true
  reached : k ≤ Int.log 10 v
  neighbour : n = ⌊v / 10 ^ k⌋₊ ∨ n = ⌊v / 10 ^ k⌋₊ + 1

/-- A power of ten on a finer grid. -/
theorem pow_eq_mul_pow {a : ℤ} (le : k ≤ a) :
    (10 : ℚ) ^ a = (10 ^ (a - k).toNat : ℕ) * 10 ^ k := by
  have places : a = (a - k).toNat + k := by omega
  conv_lhs => rw [places, zpow_add₀ (by norm_num), zpow_natCast]
  push_cast
  rfl

theorem pow_log_le (positive : 0 < v) : (10 : ℚ) ^ Int.log 10 v ≤ v := by
  exact_mod_cast Int.zpow_log_le_self (b := 10) (by norm_num) positive

/-- Half a unit in the seventeenth digit is less than a part in `2 ^ 54`. -/
theorem near_of_seventeen (positive : 0 < v)
    (near : |(n : ℚ) - v / 10 ^ (Int.log 10 v - 16)| ≤ 1 / 2) :
    |(n : ℚ) * 10 ^ (Int.log 10 v - 16) - v| < v / 2 ^ 54 := by
  have unit : (0 : ℚ) < 10 ^ (Int.log 10 v - 16) := zpow_pos (by norm_num) _
  have leading := pow_log_le positive
  have small : (10 : ℚ) ^ (Int.log 10 v - 16) ≤ v / 10 ^ 16 := by
    rw [zpow_sub₀ (by norm_num)]
    exact div_le_div_of_nonneg_right leading (by norm_num)
  calc |(n : ℚ) * 10 ^ (Int.log 10 v - 16) - v|
      = |(n : ℚ) - v / 10 ^ (Int.log 10 v - 16)| * 10 ^ (Int.log 10 v - 16) := by
        conv_rhs => rw [← abs_of_pos unit, ← abs_mul, sub_mul, abs_of_pos unit]
        rw [div_mul_cancel₀ _ unit.ne']
    _ ≤ 1 / 2 * (v / 10 ^ 16) := by gcongr
    _ < v / 2 ^ 54 := by linarith

/-- **The search ends** with a decimal that is read back as the float. -/
theorem exists_found {positive : 0 < m} (parts : unpacked x = .finite .positive m e positive)
    (some : 0 < num) (unit : 0 < den) (value : (num : ℚ) / den = m * 2 ^ e) :
    ∃ n k, shortest? x num den = .some (n, k) ∧ Found x (m * 2 ^ e) n k := by
  have canonical := canonical_unpacked x
  rw [parts] at canonical
  have log := floorLogTen_eq some unit
  rw [value] at log
  have above := value_pos positive e
  -- The seventeenth grid always has a number that is read back.
  obtain ⟨n, member, near⟩ := exists_gridNeighbour num unit (floorLogTen num den - 16)
  have readsBack : (scientificFloat n (floorLogTen num den - 16) == x) = true := by
    rw [value, log] at near
    rw [log]
    exact beq_of_unpacked (unpacked_scientificFloat canonical (near_of_seventeen above near)) parts
  have ends : (shortest? x num den).isSome = true := by
    unfold shortest?
    simp only
    rw [List.find?_isSome]
    refine ⟨(n, floorLogTen num den - 16), ?_, readsBack⟩
    rw [List.mem_flatMap]
    exact ⟨16, by decide, List.mem_map.mpr ⟨n, member, rfl⟩⟩
  obtain ⟨⟨n, k⟩, found⟩ := Option.isSome_iff_exists.mp ends
  have candidate := List.mem_of_find?_eq_some found
  obtain ⟨more, -, onGrid⟩ := List.mem_flatMap.mp candidate
  obtain ⟨n', member, same⟩ := List.mem_map.mp onGrid
  cases same
  have neighbour := floor_of_mem_gridNeighbours member
  rw [value] at neighbour
  exact ⟨_, _, found, shortest?_eq_some found, by omega, neighbour⟩

variable (found : Found x v n k)
include found

/-- What is found is at least the leading power of ten. -/
theorem Found.pow_le (positive : 0 < v) : (10 : ℚ) ^ Int.log 10 v ≤ n * 10 ^ k := by
  have unit : (0 : ℚ) < 10 ^ k := zpow_pos (by norm_num) k
  have leading := pow_log_le positive
  have power := pow_eq_mul_pow found.reached
  have floor : 10 ^ (Int.log 10 v - k).toNat ≤ ⌊v / 10 ^ k⌋₊ := by
    refine Nat.le_floor ?_
    rw [le_div_iff₀ unit, ← power]
    exact leading
  have least : 10 ^ (Int.log 10 v - k).toNat ≤ n := by
    have neighbour := found.neighbour
    omega
  rw [power]
  refine mul_le_mul_of_nonneg_right ?_ unit.le
  exact_mod_cast least

/-- What is found is at most twice the number. -/
theorem Found.le_double (positive : 0 < v) : (n : ℚ) * 10 ^ k ≤ 2 * v := by
  have unit : (0 : ℚ) < 10 ^ k := zpow_pos (by norm_num) k
  have leading := pow_log_le positive
  have grid : (10 : ℚ) ^ k ≤ v := le_trans (zpow_le_zpow_right₀ (by norm_num) found.reached) leading
  have floor : (⌊v / 10 ^ k⌋₊ : ℚ) * 10 ^ k ≤ v := by
    rw [← le_div_iff₀ unit]
    exact Nat.floor_le (div_nonneg positive.le unit.le)
  have next : (n : ℚ) ≤ ⌊v / 10 ^ k⌋₊ + 1 := by
    have neighbour := found.neighbour
    have natural : n ≤ ⌊v / 10 ^ k⌋₊ + 1 := by omega
    exact_mod_cast natural
  calc (n : ℚ) * 10 ^ k ≤ (⌊v / 10 ^ k⌋₊ + 1) * 10 ^ k := mul_le_mul_of_nonneg_right next unit.le
    _ = ⌊v / 10 ^ k⌋₊ * 10 ^ k + 10 ^ k := by ring
    _ ≤ 2 * v := by linarith

omit found in
/-- One ten-thousandth is read as a float that is not less. -/
theorem tenThousandth_le {positive : 0 < m}
    (parts : unpacked (scientificFloat 1 (-4)) = .finite .positive m e positive) :
    1 / 10000 ≤ (m : ℚ) * 2 ^ e := by
  have bits : Binary.ofFloat? (scientificFloat 1 (-4)) =
      some ⟨false, 7378697629483821, -66⟩ := by
    decide +kernel
  rw [unpacked_eq_finite bits (by decide)] at parts
  cases parts
  norm_num

omit found in
/-- What is found for a number below one ten-thousandth is below it too. -/
theorem Found.lt_tenThousandth {positive : 0 < m}
    (parts : unpacked x = .finite .positive m e positive) (found : Found x (m * 2 ^ e) n k)
    (small : (m : ℚ) * 2 ^ e < 1 / 10000) : (n : ℚ) * 10 ^ k < 1 / 10000 := by
  have unit : (0 : ℚ) < 10 ^ k := zpow_pos (by norm_num) k
  have above := value_pos positive e
  have tenth : (1 : ℚ) / 10000 = 10 ^ (-4 : ℤ) := by norm_num
  have log : Int.log 10 ((m : ℚ) * 2 ^ e) < -4 := by
    refine (Int.lt_zpow_iff_log_lt (by norm_num) above).mp ?_
    rw [Nat.cast_ofNat, ← tenth]
    exact small
  have power := pow_eq_mul_pow (le_trans found.reached log.le)
  rw [← tenth] at power
  have floor : ⌊(m : ℚ) * 2 ^ e / 10 ^ k⌋₊ < 10 ^ (-4 - k).toNat := by
    rw [Nat.floor_lt (div_nonneg above.le unit.le), div_lt_iff₀ unit, ← power]
    exact small
  have atMost : n ≤ 10 ^ (-4 - k).toNat := by
    have neighbour := found.neighbour
    omega
  rcases Nat.lt_or_eq_of_le atMost with less | same
  · rw [power]
    refine mul_lt_mul_of_pos_right ?_ unit
    exact_mod_cast less
  · -- Then the number would be one ten-thousandth as it is read.
    have equal : (n : ℚ) * 10 ^ k = (1 : ℕ) * 10 ^ (-4 : ℤ) := by
      rw [same, ← power, tenth, Nat.cast_one, one_mul]
    have readsBack := unpacked_of_beq found.readsBack parts
    rw [scientificFloat_congr equal] at readsBack
    exact absurd small (not_lt.mpr (tenThousandth_le readsBack))

end Search

end SheetExport.Binary64
