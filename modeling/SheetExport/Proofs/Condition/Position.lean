/-
**Where tokens stand, and what they hold.**

The tokens of a text stand inside it, a mistake of the tokenizer does too, and a text without tokens
is blank. Every number among the tokens is a text that is read as a number.

* `inside_of_tokensFrom`: the tokens of a text stand in it and are readable;
* `exists_position_of_tokensFrom`: so does the first thing that is no token;
* `isAllBlank_of_tokensFrom_nil`: only white space has no tokens.
-/

import SheetExport.Proofs.Condition.Spelling
import SheetExport.Proofs.Number.Scanning

namespace SheetExport.Condition

variable {position : Nat} {c : Char} {cs rest : List Char} {lexeme : Lexeme} {tokens : List Token}

theorem tokensFrom_of_tokenize {expression : String} {lexed : Lexed}
    (read : tokenize expression = .ok lexed) :
    tokensFrom 0 expression.toList = .ok lexed.tokens ∧ lexed.finish = expression.length := by
  unfold tokenize at read
  split at read
  · rename_i tokens same
    cases read
    exact ⟨same, rfl⟩
  · cases read

/-- A number among lexemes is read as what it writes. -/
def Lexeme.Readable (lexeme : Lexeme) : Prop :=
  ∀ numeral, lexeme = .number numeral →
    Written.float? numeral = some (numeralValue numeral 0)

theorem readable_of_nextLexeme (read : nextLexeme c cs = .ok (lexeme, rest)) :
    lexeme.Readable := by
  rintro numeral rfl
  unfold nextLexeme at read
  split at read
  · split at read <;> cases read
  · split at read
    · split at read
      · rename_i scanned
        cases read
        exact float?_of_scanNumber scanned
      · cases read
    · split at read
      · rename_i symbol
        cases read
        unfold symbol? at symbol
        split at symbol <;> cases symbol
      · split at read <;> cases read

/-- The token stands among the `length` characters from `start` on, and is readable. -/
structure Token.Inside (start length : Nat) (t : Token) : Prop where
  least : start ≤ t.position
  before : t.position < start + length
  readable : t.lexeme.Readable

/-- A token of a later part of a text is one of the whole text. -/
theorem Token.Inside.widen {start length start' length' : Nat} {t : Token}
    (inside : t.Inside start length) (later : start' ≤ start)
    (finish : start + length ≤ start' + length') : t.Inside start' length' :=
  ⟨Nat.le_trans later inside.least, Nat.lt_of_lt_of_le inside.before finish, inside.readable⟩

/-- **The tokens of a text stand in it and are readable**; there are not more of them than
characters. -/
theorem inside_of_tokensFrom (read : tokensFrom position cs = .ok tokens) :
    (∀ t ∈ tokens, t.Inside position cs.length) ∧ tokens.length ≤ cs.length := by
  fun_induction tokensFrom position cs generalizing tokens with
  | case1 =>
    cases read
    exact ⟨nofun, Nat.le_refl _⟩
  | case2 position c rest blank ih =>
    obtain ⟨inside, few⟩ := ih read
    refine ⟨fun t member => (inside t member).widen (Nat.le_succ _) ?_, Nat.le_succ_of_le few⟩
    simp only [List.length_cons]
    omega
  | case3 => cases read
  | case4 => cases read
  | case5 position c rest notBlank lexeme after next more others ih =>
    cases read
    have shorter := length_lt_of_nextLexeme next
    obtain ⟨inside, few⟩ := ih others
    refine ⟨List.forall_mem_cons.mpr ⟨⟨Nat.le_refl _, ?_, readable_of_nextLexeme next⟩, ?_⟩, ?_⟩
    · simp only [List.length_cons]
      omega
    · intro t member
      exact (inside t member).widen (by omega) (by omega)
    · simp only [List.length_cons] at shorter ⊢
      omega

/-- **What is no token stands in the text too.** -/
theorem exists_position_of_tokensFrom {mistake : Mistake}
    (failed : tokensFrom position cs = .error mistake) :
    ∃ p, mistake.position = some p ∧ p < position + cs.length := by
  fun_induction tokensFrom position cs with
  | case1 => cases failed
  | case2 position c rest blank ih =>
    obtain ⟨p, same, before⟩ := ih failed
    exact ⟨p, same, by simp only [List.length_cons]; omega⟩
  | case3 position c rest notBlank reason first =>
    cases failed
    exact ⟨position, rfl, by simp only [List.length_cons]; omega⟩
  | case4 position c rest notBlank lexeme after next other others ih =>
    cases failed
    have shorter := length_lt_of_nextLexeme next
    obtain ⟨p, same, before⟩ := ih others
    exact ⟨p, same, by omega⟩
  | case5 => cases failed

/-- **Only white space has no tokens.** -/
theorem isAllBlank_of_tokensFrom_nil (read : tokensFrom position cs = .ok []) :
    Text.isAllBlank cs = true := by
  fun_induction tokensFrom position cs with
  | case1 => rfl
  | case2 position c rest blank ih =>
    have others : rest.all Text.isBlank = true := ih read
    rw [Text.isAllBlank, List.all_cons, blank, others]
    rfl
  | case3 => cases read
  | case4 => cases read
  | case5 => cases read

end SheetExport.Condition
