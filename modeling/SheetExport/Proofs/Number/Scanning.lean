/-
**What is scanned as a number is read as one.**

`scanNumber` takes a numeral off the front of a text, `Written.float?` reads a text as a whole. A
scanned numeral has no white space and no low lines to leave out, is scanned whole once more, and
so is read as the number that it writes, in the digits of whatever script.

* `scanNumber_whole`: a scanned numeral is scanned whole;
* `float?_of_scanNumber`: a scanned numeral is read to its value.
-/

import Mathlib.Data.List.TakeWhile
import SheetExport.Number.Written

namespace SheetExport

open Text (isDecimalDigit isBlank)

/-! ### Scanning a numeral again -/

/-- Decimal digits only. -/
def AllDigits (cs : List Char) : Prop := ∀ c ∈ cs, isDecimalDigit c = true

/-- The numerals without sign: digits, perhaps with a point among or around them. -/
inductive Magnitude : List Char → Prop
  | whole {digits : List Char} (nonempty : digits ≠ []) (all : AllDigits digits) : Magnitude digits
  | point {before behind : List Char} (nonempty : before ++ behind ≠ [])
      (allBefore : AllDigits before) (allBehind : AllDigits behind) :
      Magnitude (before ++ '.' :: behind)

section Again

variable {cs rest digits numeral : List Char}

theorem allDigits_takeWhile (cs : List Char) : AllDigits (cs.takeWhile isDecimalDigit) :=
  fun _ member => List.mem_takeWhile_imp member

theorem AllDigits.takeWhile_eq (all : AllDigits digits) :
    digits.takeWhile isDecimalDigit = digits :=
  List.takeWhile_eq_self_iff.mpr all

theorem AllDigits.dropWhile_eq (all : AllDigits digits) : digits.dropWhile isDecimalDigit = [] :=
  List.dropWhile_eq_nil_iff.mpr all

/-- A point ends digits. -/
theorem AllDigits.span_point (all : AllDigits digits) (behind : List Char) :
    (digits ++ '.' :: behind).takeWhile isDecimalDigit = digits ∧
      (digits ++ '.' :: behind).dropWhile isDecimalDigit = '.' :: behind := by
  have point : ¬ isDecimalDigit '.' = true := by decide
  constructor
  · rw [List.takeWhile_append_of_pos all, List.takeWhile_cons_of_neg point, List.append_nil]
  · rw [List.dropWhile_append_of_pos all, List.dropWhile_cons_of_neg point]

theorem magnitude_of_scanMagnitude (found : scanMagnitude cs = some (numeral, rest)) :
    Magnitude numeral := by
  have all := allDigits_takeWhile cs
  unfold scanMagnitude at found
  simp only at found
  split at found
  · rename_i rest' _ _
    split at found
    · cases found
    · rename_i nonempty
      simp only [Option.some.injEq, Prod.mk.injEq] at found
      rw [← found.1]
      have point : Magnitude ([] ++ '.' :: rest'.takeWhile isDecimalDigit) :=
        .point nonempty nofun (allDigits_takeWhile rest')
      exact point
  · cases found
  · rename_i rest' _ nonempty
    simp only [Option.some.injEq, Prod.mk.injEq] at found
    rw [← found.1]
    exact .point (fun empty => nonempty (List.append_eq_nil_iff.mp empty).1) all
      (allDigits_takeWhile rest')
  · rename_i nonempty _ _
    simp only [Option.some.injEq, Prod.mk.injEq] at found
    rw [← found.1]
    exact .whole nonempty all

/-- A numeral without sign is scanned whole. -/
theorem Magnitude.scanned (magnitude : Magnitude numeral) :
    scanMagnitude numeral = some (numeral, []) := by
  cases magnitude with
  | whole nonempty all =>
    rw [scanMagnitude, all.takeWhile_eq, all.dropWhile_eq]
    cases numeral with
    | nil => exact absurd rfl nonempty
    | cons c cs => simp
  | @point before behind nonempty allBefore allBehind =>
    rw [scanMagnitude, (allBefore.span_point behind).1, (allBefore.span_point behind).2]
    cases before with
    | nil =>
      cases behind with
      | nil => exact absurd rfl nonempty
      | cons c cs => simp only [allBehind.takeWhile_eq, allBehind.dropWhile_eq, List.nil_append]
    | cons c cs => simp only [allBehind.takeWhile_eq, allBehind.dropWhile_eq]

theorem Magnitude.mem (magnitude : Magnitude numeral) {c : Char} (member : c ∈ numeral) :
    isDecimalDigit c = true ∨ c = '.' := by
  cases magnitude with
  | whole _ all => exact Or.inl (all c member)
  | point _ allBefore allBehind =>
    rcases List.mem_append.mp member with before | others
    · exact Or.inl (allBefore c before)
    · rcases List.mem_cons.mp others with point | behind
      · exact Or.inr point
      · exact Or.inl (allBehind c behind)

theorem isSign_of_isDecimalDigit {c : Char} (digit : isDecimalDigit c = true) :
    isSign c = false := by
  simp only [isSign, Bool.or_eq_false_iff, decide_eq_false_iff_not]
  constructor <;> rintro rfl <;> exact absurd digit (by decide)

/-- The sign of a numeral is no part of its magnitude. -/
theorem Magnitude.notSign (magnitude : Magnitude numeral) {c : Char} (member : c ∈ numeral) :
    isSign c = false := by
  rcases magnitude.mem member with digit | rfl
  · exact isSign_of_isDecimalDigit digit
  · decide

/-- A scanned numeral is a magnitude, perhaps with a sign in front. -/
theorem magnitude_of_scanNumber (found : scanNumber cs = some (numeral, rest)) :
    Magnitude numeral ∨ ∃ c magnitude, numeral = c :: magnitude ∧ isSign c = true ∧
      Magnitude magnitude := by
  unfold scanNumber at found
  split at found
  · cases found
  · split at found
    · rename_i c _ sign
      obtain ⟨⟨magnitude, _⟩, scanned, same⟩ := Option.map_eq_some_iff.mp found
      cases same
      exact Or.inr ⟨c, magnitude, rfl, sign, magnitude_of_scanMagnitude scanned⟩
    · exact Or.inl (magnitude_of_scanMagnitude found)

/-- **A scanned numeral is scanned whole.** -/
theorem scanNumber_whole (found : scanNumber cs = some (numeral, rest)) :
    scanNumber numeral = some (numeral, []) := by
  rcases magnitude_of_scanNumber found with magnitude | ⟨c, digits, rfl, sign, magnitude⟩
  · have scanned := magnitude.scanned
    cases numeral with
    | nil => cases scanned
    | cons c digits =>
      rw [scanNumber, if_neg (by simp [magnitude.notSign List.mem_cons_self]), scanned]
  · rw [scanNumber, if_pos sign, magnitude.scanned]
    rfl

end Again

/-! ### Reading a numeral as a whole text -/

section Reading

variable {cs rest numeral : List Char} {c : Char}

/-- What a table covers lies in one of its ranges. -/
theorem exists_range_of_covers {table : Text.Ranges} {n : Nat} (covered : table.covers n = true) :
    ∃ r ∈ table, r.1 ≤ n ∧ n ≤ r.2 := by
  induction table with
  | nil => cases covered
  | cons head rest ih =>
    simp only [Text.Ranges.covers, Bool.and_eq_true, Bool.or_eq_true, decide_eq_true_eq] at covered
    rcases covered with ⟨least, greatest | later⟩
    · exact ⟨head, List.mem_cons_self, least, greatest⟩
    · obtain ⟨r, member, within⟩ := ih later
      exact ⟨r, List.mem_cons_of_mem _ member, within⟩

/-- Tables whose ranges lie apart cover nothing together. -/
theorem not_covers_of_apart {table other : Text.Ranges} {n : Nat}
    (apart : ∀ r ∈ table, ∀ r' ∈ other, r.2 < r'.1 ∨ r'.2 < r.1)
    (covered : table.covers n = true) : other.covers n = false := by
  by_contra both
  obtain ⟨r, member, least, greatest⟩ := exists_range_of_covers covered
  obtain ⟨r', member', least', greatest'⟩ := exists_range_of_covers (Bool.not_eq_false _ ▸ both)
  rcases apart r member r' member' with below | above <;> omega

/-- No digit of any script is white space. -/
theorem isBlank_of_isDecimalDigit (digit : isDecimalDigit c = true) : isBlank c = false :=
  not_covers_of_apart (by decide +kernel) digit

theorem eq_of_isSign (sign : isSign c = true) : c = '+' ∨ c = '-' := by
  simpa [isSign] using sign

/-- The characters of a scanned numeral are digits, signs and points. -/
theorem plain_of_scanNumber (found : scanNumber cs = some (numeral, rest)) :
    ∀ c ∈ numeral, isBlank c = false ∧ c ≠ '_' := by
  have inMagnitude : ∀ {digits : List Char}, Magnitude digits →
      ∀ c ∈ digits, isBlank c = false ∧ c ≠ '_' := by
    intro digits magnitude c member
    rcases magnitude.mem member with digit | rfl
    · refine ⟨isBlank_of_isDecimalDigit digit, ?_⟩
      rintro rfl
      exact absurd digit (by decide)
    · decide
  rcases magnitude_of_scanNumber found with magnitude | ⟨c, digits, rfl, sign, magnitude⟩
  · exact inMagnitude magnitude
  · refine List.forall_mem_cons.mpr ⟨?_, inMagnitude magnitude⟩
    rcases eq_of_isSign sign with rfl | rfl <;> decide

/-- Nothing is trimmed off a text without characters to trim. -/
theorem trimBy_eq_self {drop : Char → Bool} (none : ∀ c ∈ cs, drop c = false) :
    Text.trimBy drop cs = cs := by
  have keeps : ∀ {ds : List Char}, (∀ c ∈ ds, drop c = false) → ds.dropWhile drop = ds := by
    intro ds noDrop
    cases ds with
    | nil => rfl
    | cons d ds => rw [List.dropWhile_cons_of_neg (by simp [noDrop d List.mem_cons_self])]
  rw [Text.trimBy, keeps none, keeps fun c member => none c (List.mem_reverse.mp member),
    List.reverse_reverse]

/-- A text without low lines has none to leave out. -/
theorem withoutLowLines_eq_self {isDigit : Char → Bool} (none : '_' ∉ cs) (before : Bool) :
    withoutLowLines isDigit before cs = some cs := by
  induction cs generalizing before with
  | nil => rfl
  | cons c cs ih =>
    obtain ⟨notLowLine, others⟩ := not_or.mp (List.mem_cons.not.mp none)
    rw [withoutLowLines, ih others]
    · rfl
    · rintro _ _ rfl
      exact absurd rfl notLowLine
    · rintro rfl
      exact absurd rfl notLowLine

/-- **A scanned numeral is read as the number that it writes.** -/
theorem float?_of_scanNumber (found : scanNumber cs = some (numeral, rest)) :
    Written.float? numeral = some (numeralValue numeral 0) := by
  have plain := plain_of_scanNumber found
  have body : Written.body? numeral = some numeral := by
    rw [Written.body?, Written.trim, trimBy_eq_self fun c member => by simp [(plain c member).1]]
    exact withoutLowLines_eq_self (fun member => (plain _ member).2 rfl) false
  rw [Written.float?, body, Option.bind_some, Written.readFloat?, readNumber?,
    scanNumber_whole found]

end Reading

end SheetExport
