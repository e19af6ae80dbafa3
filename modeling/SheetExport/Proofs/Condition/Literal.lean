/-
**Numbers in conditions and numbers in cells.**

A condition writes numbers as numerals, a cell holds them as texts of a wider form. What the
tokenizer takes for a number is a numeral (`numeral_of_mem_tokens`), and the same numeral in a cell,
with white space around it and commas in it, is the same number; so if it is finite, the cell
satisfies the comparisons with it that numbers satisfy with themselves.

* `exists_parse_compare`, `exists_parse_between` — the conditions that a numeral is written into;
* `holds_compare_self`, `holds_between_self` — a finite number compared with itself;
* `textNumber_spec`: what texts are numbers, and which ones those of tokens are.
-/

import SheetExport.Proofs.Condition.Layout
import SheetExport.Proofs.Condition.RoundTrip
import SheetExport.Proofs.Number.Finite
import SheetExport.Proofs.Value.Reading

namespace SheetExport

namespace Condition

/-! ### Numerals among tokens -/

section Tokens

variable {expression : String} {lexed : Lexed} {layout : Layout} {position : Nat}
variable {tokens : List Token} {t : Token} {numeral rest : List Char}

/-- Every token of a layout is read from a slice. -/
theorem Layout.Reads.exists_slice (reads : layout.Reads position tokens) (member : t ∈ tokens) :
    ∃ slice, Slice slice t.lexeme := by
  induction reads with
  | tail => cases member
  | piece _ spelt _ _ ih =>
    rcases List.mem_cons.mp member with rfl | later
    · exact ⟨_, spelt⟩
    · exact ih later

/-- **A number among the tokens is a numeral.** -/
theorem numeral_of_mem_tokens (read : tokenize expression = .ok lexed)
    (member : ⟨.number numeral, position⟩ ∈ lexed.tokens) : Numeral numeral := by
  obtain ⟨layout, -, reads⟩ := exists_reads_of_tokensFrom (tokensFrom_of_tokenize read).1
  obtain ⟨slice, -, isNumeral⟩ := reads.exists_slice member
  exact isNumeral

/-- A numeral is read as one lexeme where the text closes or goes on after a space. -/
theorem spells_numeral (isNumeral : Numeral numeral) (closes : Closes rest) :
    Spells (numeral ++ rest) [.number numeral] rest := by
  have spelt : Slice numeral (.number numeral) := ⟨rfl, isNumeral⟩
  have longest : Longest numeral rest := by
    refine (longest_iff spelt).mpr fun c head goesOn => ?_
    rcases closes c head with rfl | rfl <;> rcases goesOn with digit | ⟨point, -⟩
    · cases digit
    · cases point
    · cases digit
    · cases point
  obtain ⟨c, cs, rfl, notBlank⟩ := spelt.exists_head_notBlank
  exact Spells.single notBlank (nextLexeme_of_slice rfl spelt longest)

end Tokens

/-! ### Conditions of one test -/

section Tests

variable {numeral lower upper : List Char} {lexemes : List Lexeme} {test : Test} {rest : List Char}

/-- A text that begins with the word `value` and spells a test is the condition of that test. -/
theorem parse_eq_of_spells (phrase : TestPhrase (.word "value".toList :: lexemes) test)
    (spells : Spells rest lexemes []) :
    Condition.parse ("value " ++ String.ofList rest) =
      .ok ⟨"value " ++ String.ofList rest, .test test⟩ := by
  have text : ("value " ++ String.ofList rest).toList = "value".toList ++ ' ' :: rest := by simp
  have whole : Spells ("value " ++ String.ofList rest).toList (.word "value".toList :: lexemes)
      [] := by
    rw [text]
    exact Spells.wordThen (by decide) spells
  have notBlank : Text.isAllBlank ("value " ++ String.ofList rest).toList = false := by
    rw [text]
    rfl
  exact (whole.parse_eq_ok_iff notBlank).mpr ⟨rfl, (Derives.test phrase).ofUnary .or⟩

theorem exists_parse_compare (isNumeral : Numeral numeral) (comparator : Comparator) :
    ∃ c, Condition.parse ("value " ++ comparator.symbol ++ " " ++ String.ofList numeral) = .ok c ∧
      c.root = .test (.compare comparator (some (numeralValue numeral 0))) := by
  have number : Spells numeral [.number numeral] [] := by
    have spells := spells_numeral isNumeral closes_nil
    rwa [List.append_nil] at spells
  have parsed := parse_eq_of_spells (.compare comparator numeral)
    ((comparator.spells numeral).space number)
  have text : "value " ++ comparator.symbol ++ " " ++ String.ofList numeral =
      "value " ++ String.ofList (comparator.symbol.toList ++ ' ' :: numeral) := by
    apply String.toList_injective
    simp
  rw [text]
  exact ⟨_, parsed, rfl⟩

theorem exists_parse_between (isLower : Numeral lower) (isUpper : Numeral upper) :
    ∃ c, Condition.parse ("value between " ++ String.ofList lower ++ " and " ++
        String.ofList upper) = .ok c ∧
      c.root = .test (.between (some (numeralValue lower 0)) (some (numeralValue upper 0))) := by
  have last : Spells upper [.number upper] [] := by
    have spells := spells_numeral isUpper closes_nil
    rwa [List.append_nil] at spells
  have bounds := (spells_numeral isLower (closes_space _)).space
    (Spells.wordThen (w := "and".toList) (by decide) last)
  have parsed := parse_eq_of_spells (.between lower upper)
    (Spells.wordThen (isPlainWord_keyword .between) bounds)
  have text : "value between " ++ String.ofList lower ++ " and " ++ String.ofList upper =
      "value " ++ String.ofList (Keyword.between.word ++ ' ' :: (lower ++
        ' ' :: ("and".toList ++ ' ' :: upper))) := by
    apply String.toList_injective
    simp [Keyword.word]
  rw [text]
  exact ⟨_, parsed, rfl⟩

end Tests

/-! ### Numbers and themselves -/

section Itself

variable {v : Value} {x : Float}

/-- A finite number is close to itself. -/
theorem isClose_self (finite : x.isFinite = true) : isClose x x = true := by
  rw [isClose, Binary64.sub_self finite]
  decide +kernel

theorem holds_compare_self (number : v.number? = some x) (finite : x.isFinite = true)
    {comparator : Comparator} (reflexive : comparator ∈ [.eq, .ge, .le]) :
    (Tree.test (.compare comparator (some x))).holds v = true := by
  have le : x ≤ x := Binary64.le_self finite
  simp only [List.mem_cons, List.not_mem_nil, or_false] at reflexive
  rcases reflexive with rfl | rfl | rfl <;>
    simp only [Tree.holds, Test.holds, holdsOfNumber, number, Option.getD_some, Comparator.holds]
  · exact isClose_self finite
  · exact decide_eq_true le
  · exact decide_eq_true le

theorem holds_between_self (number : v.number? = some x) (finite : x.isFinite = true) :
    (Tree.test (.between (some x) (some x))).holds v = true := by
  have le : x ≤ x := Binary64.le_self finite
  simp only [Tree.holds, Test.holds, holdsOfNumber, number, Option.getD_some, le, decide_true,
    Bool.and_self]

end Itself

end Condition

/-! ### Texts as numbers -/

open Condition (Comparator Lexed tokenize)

/-- **What a text is as a number.** A text is one just if what is left of it, without the white space
around it and without its commas, is a numeral with or without an exponent that writes a finite
float; and every such text writes a float. For a number among the tokens of a condition, the text
that wraps it is the float that it writes, if this is finite, and no number otherwise; if it is
finite, then the conditions that compare with it by `==`, `>=`, `<=` and `between` hold. -/
theorem textNumber_spec {v : Value} {s : String} (textual : v.textual? = some s) :
    (∀ x, v.number? = some x ↔ FullNumeral (Value.numeralOf s) ∧
      Written.float? (Value.numeralOf s) = some x ∧ x.isFinite = true) ∧
    (∀ cs, FullNumeral cs → (Written.float? cs).isSome = true) ∧
    ∀ {expression : String} {lexed : Lexed} {numeral : List Char} {position : Nat},
      tokenize expression = .ok lexed → ⟨.number numeral, position⟩ ∈ lexed.tokens →
      Wraps s numeral →
      ∃ x, Written.float? numeral = some x ∧
        v.number? = (if x.isFinite then some x else none) ∧
        (x.isFinite = true →
          (∀ comparator ∈ [Comparator.eq, .ge, .le], ∃ c : Condition,
            Condition.parse ("value " ++ comparator.symbol ++ " " ++ String.ofList numeral) =
                .ok c ∧ c.holds v = true) ∧
          ∃ c : Condition,
            Condition.parse ("value between " ++ String.ofList numeral ++ " and " ++
              String.ofList numeral) = .ok c ∧ c.holds v = true) := by
  refine ⟨fun x => number?_eq_some_iff textual, fun cs isFull => ?_,
    fun {_ _ numeral _} read member wraps => ?_⟩
  · obtain ⟨x, written, -⟩ := float?_of_fullNumeral isFull
    rw [written]
    rfl
  · have isNumeral : Numeral numeral := Condition.numeral_of_mem_tokens read member
    obtain ⟨written, number⟩ := number?_of_wraps textual wraps isNumeral
    rw [Option.filter_some] at number
    refine ⟨numeralValue numeral 0, written, number, fun finite => ?_⟩
    rw [if_pos finite] at number
    refine ⟨fun comparator reflexive => ?_, ?_⟩
    · obtain ⟨c, parsed, root⟩ := Condition.exists_parse_compare isNumeral comparator
      refine ⟨c, parsed, ?_⟩
      rw [Condition.holds, root]
      exact Condition.holds_compare_self number finite reflexive
    · obtain ⟨c, parsed, root⟩ := Condition.exists_parse_between isNumeral isNumeral
      refine ⟨c, parsed, ?_⟩
      rw [Condition.holds, root]
      exact Condition.holds_between_self number finite

/-- A number in a condition, and a cell that holds it with a comma and white space. -/
theorem textNumber_spec_sample :
    (∃ x, (Value.text " 1,250.5 ").number? = some x) ∧
    (∃ c : Condition, Condition.parse "value == 1250.5" = .ok c ∧
      c.holds (.text " 1,250.5 ") = true) ∧
    ∃ c : Condition, Condition.parse "value between 1250.5 and 1250.5" = .ok c ∧
      c.holds (.text " 1,250.5 ") = true := by
  have scanned : scanNumber "1250.5".toList = some ("1250.5".toList, []) := by decide +kernel
  have isNumeral : Numeral "1250.5".toList := numeral_of_scanNumber scanned
  have wraps : Wraps " 1,250.5 " "1250.5".toList :=
    ⟨[' '], "1,250.5".toList, [' '], by decide, by decide, by decide, by decide⟩
  obtain ⟨lexed, read, lexemes⟩ :
      ∃ lexed, tokenize "1250.5" = .ok lexed ∧
        Condition.lexemesOf lexed.tokens = [.number "1250.5".toList] := by
    have spells := Condition.spells_numeral isNumeral Condition.closes_nil
    rw [List.append_nil] at spells
    exact spells.tokenize
  have among : Condition.Lexeme.number "1250.5".toList ∈ Condition.lexemesOf lexed.tokens := by
    rw [lexemes]
    exact List.mem_singleton_self _
  obtain ⟨⟨lexeme, position⟩, member, rfl⟩ := List.mem_map.mp among
  obtain ⟨x, written, number, holds⟩ :=
    (textNumber_spec (v := .text " 1,250.5 ") rfl).2.2 read member wraps
  have finite : x.isFinite = true := by
    have all : (Written.float? "1250.5".toList).all Float.isFinite = true := by decide +kernel
    rw [written] at all
    exact all
  rw [if_pos finite] at number
  exact ⟨⟨x, number⟩, (holds finite).1 .eq (by decide), (holds finite).2⟩

end SheetExport
