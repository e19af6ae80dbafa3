/-
**From characters to tokens.**

At each character that is not white space one lexeme is read, always the longest: a quoted text up
to the next quote, a numeral at a digit, sign or point, a symbol, or else a word. A token step
returns a rest that is shorter than the text before it (`length_lt_of_nextLexeme`), which is why
`tokensFrom` ends.
-/

import SheetExport.Condition.Token
import SheetExport.Number.Numeral
import SheetExport.Text.Ranges
import SheetExport.Text.Case
import SheetExport.Text.Word

namespace SheetExport.Condition

/-- The symbol at the front of a text, the longer one where one begins another, and the rest. -/
def symbol? : List Char → Option (Lexeme × List Char)
  | '|' :: '|' :: rest => some (.connective .or, rest)
  | '&' :: '&' :: rest => some (.connective .and, rest)
  | '<' :: '=' :: rest => some (.comparator .le, rest)
  | '>' :: '=' :: rest => some (.comparator .ge, rest)
  | '=' :: '=' :: rest => some (.comparator .eq, rest)
  | '!' :: '=' :: rest => some (.comparator .ne, rest)
  | '<' :: rest => some (.comparator .lt, rest)
  | '>' :: rest => some (.comparator .gt, rest)
  | '!' :: rest => some (.connective .not, rest)
  | '^' :: rest => some (.connective .xor, rest)
  | '(' :: rest => some (.leftParen, rest)
  | ')' :: rest => some (.rightParen, rest)
  | _ => none

/-- A numeral begins with a digit, a sign or a point. -/
def startsNumber (c : Char) : Bool := Text.isDigitLike c || isSign c || c = '.'

/-- The lexeme that begins with the character `c`, and the rest after it. -/
def nextLexeme (c : Char) (cs : List Char) : Except Reason (Lexeme × List Char) :=
  if c = '\'' then
    match cs.dropWhile (· ≠ '\'') with
    | [] => .error .unterminatedText
    | _ :: rest => .ok (.quoted (cs.takeWhile (· ≠ '\'')), rest)
  else if startsNumber c then
    match scanNumber (c :: cs) with
    | some (numeral, rest) => .ok (.number numeral, rest)
    | none => .error (.unknownOperator (String.singleton c))
  else
    match symbol? (c :: cs) with
    | some found => .ok found
    | none =>
      if Text.isWordChar c then
        .ok (.word (Text.lowerWord (c :: cs.takeWhile Text.isWordChar)),
          cs.dropWhile Text.isWordChar)
      else .error (.unknownOperator (String.singleton c))

/-! ### Every step shortens the text -/

theorem length_dropWhile_le {α : Type} (p : α → Bool) (xs : List α) :
    (xs.dropWhile p).length ≤ xs.length :=
  (List.dropWhile_suffix p).sublist.length_le

theorem length_lt_of_symbol? {cs rest : List Char} {lexeme : Lexeme}
    (found : symbol? cs = some (lexeme, rest)) : rest.length < cs.length := by
  unfold symbol? at found
  split at found <;> cases found <;> simp only [List.length_cons] <;> omega

theorem length_lt_of_scanMagnitude {cs numeral rest : List Char}
    (found : scanMagnitude cs = some (numeral, rest)) : rest.length < cs.length := by
  have split_ : (cs.takeWhile Text.isDecimalDigit).length +
      (cs.dropWhile Text.isDecimalDigit).length = cs.length := by
    rw [← List.length_append, List.takeWhile_append_dropWhile]
  unfold scanMagnitude at found
  simp only at found
  split at found
  · rename_i rest' whole_nil remaining
    rw [whole_nil, remaining] at split_
    split at found
    · simp at found
    · simp only [Option.some.injEq, Prod.mk.injEq] at found
      have := length_dropWhile_le Text.isDecimalDigit rest'
      rw [← found.2]
      simp only [List.length_nil, List.length_cons] at split_
      omega
  · simp at found
  · rename_i rest' remaining _
    simp only [Option.some.injEq, Prod.mk.injEq] at found
    have := length_dropWhile_le Text.isDecimalDigit rest'
    rw [← found.2]
    rw [remaining] at split_
    simp only [List.length_cons] at split_
    omega
  · rename_i not_nil _
    simp only [Option.some.injEq, Prod.mk.injEq] at found
    have positive : 0 < (cs.takeWhile Text.isDecimalDigit).length :=
      List.length_pos_iff.mpr fun empty => by simp_all
    rw [← found.2]
    omega

theorem length_lt_of_scanNumber {cs numeral rest : List Char}
    (found : scanNumber cs = some (numeral, rest)) : rest.length < cs.length := by
  unfold scanNumber at found
  split at found
  · simp at found
  · split at found
    · simp only [Option.map_eq_some_iff, Prod.exists, Prod.mk.injEq] at found
      obtain ⟨lexeme, rest', scanned, -, same⟩ := found
      have := length_lt_of_scanMagnitude scanned
      subst same
      simp only [List.length_cons]
      omega
    · exact length_lt_of_scanMagnitude found

theorem length_lt_of_nextLexeme {c : Char} {cs rest : List Char} {lexeme : Lexeme}
    (found : nextLexeme c cs = .ok (lexeme, rest)) : rest.length < (c :: cs).length := by
  unfold nextLexeme at found
  split at found
  · split at found
    · simp at found
    · rename_i remaining
      have := length_dropWhile_le (· ≠ '\'') cs
      simp only [remaining, List.length_cons] at this
      simp only [Except.ok.injEq, Prod.mk.injEq] at found
      rw [← found.2, List.length_cons]
      omega
  · split at found
    · split at found
      · rename_i scanned
        simp only [Except.ok.injEq, Prod.mk.injEq] at found
        rw [← found.2]
        exact length_lt_of_scanNumber scanned
      · simp at found
    · split at found
      · rename_i symbol
        simp only [Except.ok.injEq] at found
        subst found
        exact length_lt_of_symbol? symbol
      · split at found
        · simp only [Except.ok.injEq, Prod.mk.injEq] at found
          have := length_dropWhile_le Text.isWordChar cs
          rw [← found.2, List.length_cons]
          omega
        · simp at found

/-! ### The token list -/

/-- The tokens of a text whose first character stands at `position`. -/
def tokensFrom (position : Nat) (cs : List Char) : Except Mistake (List Token) :=
  match cs with
  | [] => .ok []
  | c :: rest =>
    if Text.isBlank c then tokensFrom (position + 1) rest
    else
      match _ : nextLexeme c rest with
      | .error reason => .error ⟨reason, some position⟩
      | .ok (lexeme, after) =>
        match tokensFrom (position + ((c :: rest).length - after.length)) after with
        | .error mistake => .error mistake
        | .ok tokens => .ok (⟨lexeme, position⟩ :: tokens)
termination_by cs.length
decreasing_by
  · simp
  · exact length_lt_of_nextLexeme ‹_›

/-- The tokens of an expression. -/
def tokenize (expression : String) : Except SyntaxError Lexed :=
  match tokensFrom 0 expression.toList with
  | .ok tokens => .ok ⟨tokens, expression.length⟩
  | .error mistake => .error { mistake, expression }

end SheetExport.Condition
