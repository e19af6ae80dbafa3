/-
**Which texts are numbers.**

A text in a cell is a number if what is left of it without the white space around it and without
its commas is a numeral with or without an exponent. `FullNumeral` says so of a text without a word
about reading: digits with at most one point, of whatever script, perhaps with a sign, and perhaps
with an exponent.

* `isSome_readNumber?_iff` — the texts that are read are those of this form;
* `float?_of_fullNumeral` — they are read as the numbers that they write;
* `Wraps` — a text that differs from another one by white space around it and commas in it only;
* `number?_eq_some_iff`, `number?_of_wraps`: the numbers that texts are.
-/

import SheetExport.Proofs.Condition.Slice
import SheetExport.Value.Number

namespace SheetExport

open Condition (Slice Longest longest_iff scanNumber_append_of_longest)
open Text (isDecimalDigit isBlank)

/-! ### Numerals with exponents -/

/-- What may follow a numeral: nothing, or the mark of an exponent, perhaps a sign, and digits. -/
inductive Exponent : List Char → Prop
  | none : Exponent []
  | unsigned {mark : Char} {digits : List Char} (marks : mark = 'e' ∨ mark = 'E')
      (nonempty : digits ≠ []) (all : AllDigits digits) : Exponent (mark :: digits)
  | signed {mark c : Char} {digits : List Char} (marks : mark = 'e' ∨ mark = 'E')
      (sign : isSign c = true) (nonempty : digits ≠ []) (all : AllDigits digits) :
      Exponent (mark :: c :: digits)

/-- A numeral with or without an exponent. -/
inductive FullNumeral : List Char → Prop
  | mk {numeral exponent : List Char} (isNumeral : Numeral numeral)
      (isExponent : Exponent exponent) : FullNumeral (numeral ++ exponent)

section Forms

variable {cs rest numeral exponent : List Char} {c : Char}

theorem Numeral.mem (isNumeral : Numeral numeral) (member : c ∈ numeral) :
    isDecimalDigit c = true ∨ c ∈ ['.', '+', '-', 'e', 'E'] := by
  cases isNumeral with
  | unsigned magnitude =>
    rcases magnitude.mem member with digit | rfl
    · exact Or.inl digit
    · exact Or.inr (by decide)
  | signed sign magnitude =>
    rcases List.mem_cons.mp member with rfl | inside
    · rcases eq_of_isSign sign with rfl | rfl <;> exact Or.inr (by decide)
    · rcases magnitude.mem inside with digit | rfl
      · exact Or.inl digit
      · exact Or.inr (by decide)

theorem Exponent.mem (isExponent : Exponent exponent) (member : c ∈ exponent) :
    isDecimalDigit c = true ∨ c ∈ ['.', '+', '-', 'e', 'E'] := by
  cases isExponent with
  | none => cases member
  | unsigned marks _ all =>
    rcases List.mem_cons.mp member with rfl | inside
    · rcases marks with rfl | rfl <;> exact Or.inr (by decide)
    · exact Or.inl (all c inside)
  | signed marks sign _ all =>
    rcases List.mem_cons.mp member with rfl | further
    · rcases marks with rfl | rfl <;> exact Or.inr (by decide)
    · rcases List.mem_cons.mp further with rfl | inside
      · rcases eq_of_isSign sign with rfl | rfl <;> exact Or.inr (by decide)
      · exact Or.inl (all c inside)

/-- The characters of numbers are digits, points, signs and marks. -/
theorem FullNumeral.mem (isFull : FullNumeral cs) (member : c ∈ cs) :
    isDecimalDigit c = true ∨ c ∈ ['.', '+', '-', 'e', 'E'] := by
  cases isFull with
  | mk isNumeral isExponent =>
    exact (List.mem_append.mp member).elim isNumeral.mem isExponent.mem

/-- Such a character is neither white space nor a low line nor a comma. -/
theorem plain_of_digit_or_mark (kind : isDecimalDigit c = true ∨ c ∈ ['.', '+', '-', 'e', 'E']) :
    isBlank c = false ∧ c ≠ '_' ∧ c ≠ ',' := by
  rcases kind with digit | mark
  · refine ⟨isBlank_of_isDecimalDigit digit, ?_, ?_⟩ <;> rintro rfl <;>
      exact absurd digit (by decide)
  · simp only [List.mem_cons, List.not_mem_nil, or_false] at mark
    rcases mark with rfl | rfl | rfl | rfl | rfl <;> decide

/-- A numeral does not go on with an exponent. -/
theorem Exponent.longest (isExponent : Exponent exponent) (isNumeral : Numeral numeral) :
    Longest numeral exponent := by
  have spelt : Slice numeral (.number numeral) := ⟨rfl, isNumeral⟩
  refine (longest_iff spelt).mpr fun c head goesOn => ?_
  have mark : c = 'e' ∨ c = 'E' := by
    cases isExponent with
    | none => cases head
    | unsigned marks => cases head; exact marks
    | signed marks => cases head; exact marks
  rcases goesOn with digit | ⟨rfl, _⟩
  · rcases mark with rfl | rfl <;> exact absurd digit (by decide)
  · exact absurd mark (by decide)

/-! ### Reading -/

/-- Digits that are there, and nothing else. -/
theorem isSome_of_digits {digits : List Char} {exponent : Int} :
    (if !digits.isEmpty && digits.all isDecimalDigit then some exponent else none).isSome = true ↔
      digits ≠ [] ∧ AllDigits digits := by
  simp [AllDigits]

theorem isSome_readExponent?_iff :
    (readExponent? cs).isSome = true ↔
      ∃ digits, digits ≠ [] ∧ AllDigits digits ∧
        (cs = digits ∨ ∃ c, isSign c = true ∧ cs = c :: digits) := by
  cases cs with
  | nil =>
    refine iff_of_false Bool.false_ne_true ?_
    rintro ⟨digits, nonempty, -, same | ⟨c, -, same⟩⟩
    · exact nonempty same.symm
    · cases same
  | cons c cs =>
    rw [readExponent?]
    rw [isSome_of_digits]
    by_cases sign : isSign c = true
    · rw [if_pos sign]
      constructor
      · rintro ⟨nonempty, all⟩
        exact ⟨cs, nonempty, all, Or.inr ⟨c, sign, rfl⟩⟩
      · rintro ⟨digits, nonempty, all, same | ⟨d, -, same⟩⟩
        · subst same
          rw [isSign_of_isDecimalDigit (all c List.mem_cons_self)] at sign
          cases sign
        · cases same
          exact ⟨nonempty, all⟩
    · rw [if_neg sign]
      constructor
      · rintro ⟨nonempty, all⟩
        exact ⟨c :: cs, nonempty, all, Or.inl rfl⟩
      · rintro ⟨digits, nonempty, all, same | ⟨d, isSigned, same⟩⟩
        · subst same
          exact ⟨nonempty, all⟩
        · cases same
          exact absurd isSigned sign

/-- **The texts that are read as numbers** are the numerals with or without an exponent. -/
theorem isSome_readNumber?_iff : (readNumber? cs).isSome = true ↔ FullNumeral cs := by
  constructor
  · intro some
    unfold readNumber? at some
    split at some
    · cases some
    · rename_i numeral scanned
      obtain ⟨rfl, -⟩ := append_of_scanNumber scanned
      exact .mk (numeral_of_scanNumber scanned) .none
    · rename_i numeral mark rest scanned
      obtain ⟨rfl, -⟩ := append_of_scanNumber scanned
      split at some
      · rename_i marks
        rw [Option.isSome_map] at some
        obtain ⟨digits, nonempty, all, rfl | ⟨c, sign, rfl⟩⟩ := isSome_readExponent?_iff.mp some
        · exact .mk (numeral_of_scanNumber scanned) (.unsigned marks nonempty all)
        · exact .mk (numeral_of_scanNumber scanned) (.signed marks sign nonempty all)
      · cases some
  · rintro ⟨isNumeral, isExponent⟩
    have scanned := scanNumber_append_of_longest isNumeral (isExponent.longest isNumeral)
    unfold readNumber?
    rw [scanned]
    cases isExponent with
    | none => rfl
    | unsigned marks nonempty all =>
      simp only [if_pos marks, Option.isSome_map]
      exact isSome_readExponent?_iff.mpr ⟨_, nonempty, all, Or.inl rfl⟩
    | signed marks sign nonempty all =>
      simp only [if_pos marks, Option.isSome_map]
      exact isSome_readExponent?_iff.mpr ⟨_, nonempty, all, Or.inr ⟨_, sign, rfl⟩⟩

/-- **Every such text is the writing of a float**, and of the one that is read. -/
theorem float?_of_fullNumeral (isFull : FullNumeral cs) :
    ∃ x, Written.float? cs = some x ∧ readNumber? cs = some x := by
  obtain ⟨x, read⟩ := Option.isSome_iff_exists.mp (isSome_readNumber?_iff.mpr isFull)
  have plain := fun c (member : c ∈ cs) => plain_of_digit_or_mark (isFull.mem member)
  have body : Written.body? cs = some cs := by
    rw [Written.body?, Written.trim, trimBy_eq_self fun c member => by simp [(plain c member).1]]
    exact withoutLowLines_eq_self (fun member => (plain _ member).2.1 rfl) false
  exact ⟨x, by rw [Written.float?, body, Option.bind_some, Written.readFloat?, read], read⟩

/-- A text that is no numeral is not read. -/
theorem readNumber?_eq_none (notFull : ¬ FullNumeral cs) : readNumber? cs = none := by
  rw [← Option.not_isSome_iff_eq_none, isSome_readNumber?_iff]
  exact notFull

end Forms

/-! ### Texts with white space and commas -/

section Texts

variable {v : Value} {s : String} {numeral : List Char} {c : Char} {cs : List Char}

/-- The text is the numeral with white space around it and commas anywhere in between. -/
def Wraps (s : String) (numeral : List Char) : Prop :=
  ∃ before body behind, s.toList = before ++ body ++ behind ∧ Text.isAllBlank before = true ∧
    Text.isAllBlank behind = true ∧ body.filter (· ≠ ',') = numeral

theorem dropWhile_blank_append {before : List Char} (blank : Text.isAllBlank before = true)
    (cs : List Char) : (before ++ cs).dropWhile isBlank = cs.dropWhile isBlank :=
  List.dropWhile_append_of_pos (List.all_eq_true.mp blank)

theorem dropWhile_eq_self (plain : ∀ c ∈ cs, isBlank c = false) : cs.dropWhile isBlank = cs := by
  cases cs with
  | nil => rfl
  | cons c cs => rw [List.dropWhile_cons_of_neg (by simp [plain c List.mem_cons_self])]

/-- Stripping leaves what stands between the white space. -/
theorem strip_eq {before body behind : List Char} (front : Text.isAllBlank before = true)
    (back : Text.isAllBlank behind = true) (plain : ∀ c ∈ body, isBlank c = false) :
    Text.strip (before ++ body ++ behind) = body := by
  have reversed : Text.isAllBlank behind.reverse = true := by
    rw [Text.isAllBlank, List.all_reverse]
    exact back
  have plain' : ∀ c ∈ body.reverse, isBlank c = false :=
    fun c member => plain c (List.mem_reverse.mp member)
  rw [Text.strip, Text.trimBy, List.append_assoc, dropWhile_blank_append front]
  cases body with
  | nil =>
    rw [List.nil_append, List.dropWhile_eq_nil_iff.mpr (List.all_eq_true.mp back)]
    rfl
  | cons c body =>
    rw [List.cons_append, List.dropWhile_cons_of_neg (by simp [plain c List.mem_cons_self]),
      ← List.cons_append, List.reverse_append, dropWhile_blank_append reversed,
      dropWhile_eq_self plain', List.reverse_reverse]

theorem mem_dropWhile_blank (member : c ∈ cs) (notBlank : isBlank c = false) :
    c ∈ cs.dropWhile isBlank := by
  rw [← List.takeWhile_append_dropWhile (p := isBlank) (l := cs)] at member
  refine (List.mem_append.mp member).resolve_left fun dropped => ?_
  rw [List.mem_takeWhile_imp dropped] at notBlank
  cases notBlank

/-- What is no white space is not stripped. -/
theorem mem_strip (member : c ∈ cs) (notBlank : isBlank c = false) : c ∈ Text.strip cs :=
  List.mem_reverse.mpr (mem_dropWhile_blank
    (List.mem_reverse.mpr (mem_dropWhile_blank member notBlank)) notBlank)

theorem numeralOf_of_wraps (wraps : Wraps s numeral) (isNumeral : Numeral numeral) :
    Value.numeralOf s = numeral := by
  obtain ⟨before, body, behind, parts, front, back, rfl⟩ := wraps
  have plain : ∀ c ∈ body, isBlank c = false := by
    intro c member
    by_cases comma : c = ','
    · rw [comma]
      decide
    · have kept : c ∈ body.filter (· ≠ ',') := List.mem_filter.mpr ⟨member, by simpa using comma⟩
      exact (plain_of_digit_or_mark (isNumeral.mem kept)).1
  rw [Value.numeralOf, parts, strip_eq front back plain]

theorem number?_textual (textual : v.textual? = some s) :
    v.number? = (readNumber? (Value.numeralOf s)).filter Float.isFinite := by
  cases v <;> cases textual <;> rfl

/-- **A text is a number** just if what is left of it is a numeral with or without an exponent, and
the float that this writes is finite. -/
theorem number?_eq_some_iff (textual : v.textual? = some s) {x : Float} :
    v.number? = some x ↔
      FullNumeral (Value.numeralOf s) ∧ Written.float? (Value.numeralOf s) = some x ∧
        x.isFinite = true := by
  rw [number?_textual textual, Option.filter_eq_some_iff]
  constructor
  · rintro ⟨read, finite⟩
    have isFull : FullNumeral (Value.numeralOf s) :=
      isSome_readNumber?_iff.mp (by rw [read]; rfl)
    obtain ⟨y, written, read'⟩ := float?_of_fullNumeral isFull
    cases read.symm.trans read'
    exact ⟨isFull, written, finite⟩
  · rintro ⟨isFull, written, finite⟩
    obtain ⟨y, written', read⟩ := float?_of_fullNumeral isFull
    cases written.symm.trans written'
    exact ⟨read, finite⟩

/-- **A wrapped numeral is the number that it writes**, if that is finite. -/
theorem number?_of_wraps (textual : v.textual? = some s) (wraps : Wraps s numeral)
    (isNumeral : Numeral numeral) :
    Written.float? numeral = some (numeralValue numeral 0) ∧
      v.number? = (some (numeralValue numeral 0)).filter Float.isFinite := by
  have scanned := scanNumber_append_of_longest isNumeral (Exponent.none.longest isNumeral)
  rw [List.append_nil] at scanned
  refine ⟨float?_of_scanNumber scanned, ?_⟩
  rw [number?_textual textual, numeralOf_of_wraps wraps isNumeral, readNumber?, scanned]

/-- A text with a character that numbers do not have is no number. -/
theorem number?_eq_none_of_mem (textual : v.textual? = some s) (member : c ∈ s.toList)
    (notDigit : isDecimalDigit c = false) (notMark : c ∉ ['.', '+', '-', 'e', 'E'])
    (notBlank : isBlank c = false) (notComma : c ≠ ',') : v.number? = none := by
  have kept : c ∈ Value.numeralOf s := by
    exact List.mem_filter.mpr ⟨mem_strip member notBlank, by simpa using notComma⟩
  rw [number?_textual textual, readNumber?_eq_none, Option.filter_none]
  intro isFull
  rcases isFull.mem kept with digit | mark
  · rw [digit] at notDigit
    cases notDigit
  · exact notMark mark

end Texts

end SheetExport
