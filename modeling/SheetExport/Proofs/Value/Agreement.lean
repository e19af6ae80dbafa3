/-
**A value and its cell are the same number.**

A condition asks a value for its number, a cell keeps what the value is converted into; the two go
over the kinds of values apart from each other. They agree for all values that do not stand for
others (`number?_toCell`): what is no number stays none, even where it becomes a text, and a number
beyond all floats is none before and after. An integer is kept in its cell all the same.

* `Value.isNumeric`, `Value.integer?` — the numbers among the values, and the integers among these;
* `number?_ofFloat?` — a float in a cell is the number it was, or none is left;
* `holds_eq_of_number?`: numeric tests depend on the number alone.
-/

import SheetExport.Condition.Truth
import SheetExport.Proofs.Number.Finite
import SheetExport.Proofs.Value.Reading
import SheetExport.Proofs.Value.Storing

namespace SheetExport

open Binary64 (floatLimit isFinite_ofInt)

namespace Value

/-- The integer that a value is, as such or as a member of an enumeration of integers. -/
def integer? : Value → Option Int
  | int n | intMember _ n => some n
  | _ => none

/-- Is a number of any kind; truth values are none. -/
def isNumeric : Value → Bool
  | int _ | intMember .. | float _ | decimal _ | ratio _ | quantity .. => true
  | _ => false

/-- Stands for another value, as a member of an enumeration of values of any kind. -/
def isMember : Value → Bool
  | member .. => true
  | _ => false

end Value

/-! ### Numbers -/

section Numbers

variable {v : Value} {x : Option Float} {n : ℤ}

/-- A float that can be kept is the same number in its cell, and one that cannot is none. -/
theorem number?_ofFloat? (x : Option Float) :
    (CellValue.ofFloat? x).toValue.number? = x.filter Float.isFinite := by
  unfold CellValue.ofFloat?
  split
  · rename_i finite kept
    have isFinite : finite.isFinite = true := (Option.filter_eq_some_iff.mp kept).2
    rw [kept]
    show (some finite).filter Float.isFinite = _
    rw [Option.filter_some, if_pos isFinite]
  · rename_i none
    rw [none]
    rfl

/-- The cell of a float is empty just where the float is no number. -/
theorem ofFloat?_eq_null_iff : CellValue.ofFloat? x = .null ↔ x.filter Float.isFinite = none := by
  unfold CellValue.ofFloat?
  split
  · rename_i kept
    rw [kept]
    exact iff_of_false nofun nofun
  · rename_i none
    exact iff_of_true rfl none

/-- An integer is no number just where it is beyond all floats. -/
theorem number?_eq_none_iff_of_integer (isInteger : v.integer? = some n) :
    v.number? = none ↔ floatLimit ≤ n.natAbs := by
  have number : v.number? = (some (Float.ofInt n)).filter Float.isFinite := by
    cases v <;> cases isInteger <;> rfl
  rw [number, Option.filter_some, ← not_lt, ← isFinite_ofInt]
  split
  · rename_i finite
    exact iff_of_false nofun (not_not.mpr finite)
  · rename_i infinite
    exact iff_of_true rfl infinite

/-! ### Texts of what is no number -/

/-- The clock in a duration's text is not part of a number. -/
theorem number?_durationText (d : Duration) : (Value.text d.text).number? = none := by
  refine number?_eq_none_of_mem (c := ':') rfl ?_ (by decide) (by decide) (by decide) (by decide)
  simp [Duration.text]

/-- The unit of a complex number is not part of a real one. -/
theorem number?_complexText (z : Complex) : (Value.text z.text).number? = none := by
  refine number?_eq_none_of_mem (c := 'j') rfl ?_ (by decide) (by decide) (by decide) (by decide)
  unfold Complex.text
  split <;> simp

end Numbers

/-! ### Numeric tests -/

/-- The test goes by the number that a value is. -/
def Condition.Test.isNumeric : Condition.Test → Bool
  | compare .. | between .. | has .isNegative | has .isPositive | has .isZero => true
  | _ => false

/-- **A numeric test says the same of values that are the same number.** -/
theorem holds_eq_of_number? {test : Condition.Test} {v w : Value} (numeric : test.isNumeric = true)
    (same : v.number? = w.number?) : test.holds v = test.holds w := by
  have claims (claim : Float → Bool) :
      Condition.holdsOfNumber v claim = Condition.holdsOfNumber w claim := by
    rw [Condition.holdsOfNumber, Condition.holdsOfNumber, same]
  cases test with
  | compare comparator operand =>
    cases comparator <;> simp only [Condition.Test.holds, claims]
  | between lower upper => exact claims _
  | matchText how operand => cases numeric
  | has property =>
    cases property with
    | isNegative => exact claims _
    | isPositive => exact claims _
    | isZero => exact claims _
    | _ => cases numeric

/-! ### Conversion -/

/-- **Conversion keeps the number that a value is**, so numeric tests see no difference: of every
value but an object and a member that stands for another value. Of the numbers, an integer stays one
in its cell and is no number just if it is beyond all floats; any other has an empty cell just if it
is no number. -/
theorem number?_toCell {v : Value} (known : v.isOpaque = false) (own : v.isMember = false) :
    ∃ c, v.toCell = .ok c ∧ c.toValue.number? = v.number? ∧
      (∀ test : Condition.Test, test.isNumeric = true → test.holds c.toValue = test.holds v) ∧
      (∀ n, v.integer? = some n → c = .int n ∧ (v.number? = none ↔ floatLimit ≤ n.natAbs)) ∧
      (v.isNumeric = true → v.integer? = none → (c = .null ↔ v.number? = none)) := by
  suffices kept : ∃ c, v.toCell = .ok c ∧ c.toValue.number? = v.number? ∧
      (∀ n, v.integer? = some n → c = .int n) ∧
      (v.isNumeric = true → v.integer? = none → (c = .null ↔ v.number? = none)) by
    obtain ⟨c, converted, same, integers, empty⟩ := kept
    exact ⟨c, converted, same, fun _ numeric => holds_eq_of_number? numeric same,
      fun n isInteger => ⟨integers n isInteger, number?_eq_none_iff_of_integer isInteger⟩, empty⟩
  cases v with
  | object | code => cases known
  | member => cases own
  | int n => exact ⟨.int n, rfl, rfl, fun _ same => congrArg _ (Option.some.inj same), nofun⟩
  | intMember label n =>
    exact ⟨.int n, rfl, rfl, fun _ same => congrArg _ (Option.some.inj same), nofun⟩
  | float x => exact ⟨_, rfl, number?_ofFloat? _, nofun, fun _ _ => ofFloat?_eq_null_iff⟩
  | decimal d => exact ⟨_, rfl, number?_ofFloat? _, nofun, fun _ _ => ofFloat?_eq_null_iff⟩
  | ratio q => exact ⟨_, rfl, number?_ofFloat? _, nofun, fun _ _ => ofFloat?_eq_null_iff⟩
  | quantity shown x => exact ⟨_, rfl, number?_ofFloat? _, nofun, fun _ _ => ofFloat?_eq_null_iff⟩
  | duration d => exact ⟨_, rfl, number?_durationText d, nofun, nofun⟩
  | complex z => exact ⟨_, rfl, number?_complexText z, nofun, nofun⟩
  | _ => exact ⟨_, rfl, rfl, nofun, nofun⟩

/-- The least integer that is beyond all floats, as a member of an enumeration. -/
theorem number?_toCell_sample :
    (Value.intMember "Size.HUGE" floatLimit).toCell = .ok (.int floatLimit) ∧
    (Value.int floatLimit).number? = none ∧
    (Value.intMember "Size.HUGE" floatLimit).number? = none := by
  obtain ⟨c, converted, same, -, integers, -⟩ :=
    number?_toCell (v := .intMember "Size.HUGE" floatLimit) rfl rfl
  obtain ⟨rfl, beyond⟩ := integers floatLimit rfl
  have none : (Value.intMember "Size.HUGE" floatLimit).number? = none :=
    beyond.mpr (Int.natAbs_natCast _).ge
  exact ⟨converted, same.trans none, none⟩

end SheetExport
