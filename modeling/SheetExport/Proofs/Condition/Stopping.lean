/-
**Where the parser stops.**

A parsing function that fails has read some tokens and stops before the rest. `StopsIn` says what is
right about that place: the tokens before it can be gone on with to a whole phrase, the token behind
it makes the function fail whatever stands after it, and the place is the one that is reported,
except that a parenthesis that is not closed is reported where it was opened.

* `StopsIn.atFirst`, `StopsIn.enclose`: a function stops at its first token, or where a function
  that it calls does, behind the tokens that it has read before;
* `stopsIn_test`: a test that fails stops in its tokens.
-/

import SheetExport.Proofs.Condition.Grammar

namespace SheetExport.Condition

/-! ### Stopping -/

/-- The positions of the open parentheses behind a token, innermost first. -/
def Token.track (opened : List Nat) (t : Token) : List Nat :=
  match t.lexeme with
  | .leftParen => t.position :: opened
  | .rightParen => opened.tail
  | _ => opened

/-- The positions of the parentheses that are open behind tokens, innermost first. -/
def openBehind (opened : List Nat) (ts : List Token) : List Nat := ts.foldl Token.track opened

/-- The place where a mistake between `front` and `rest` is reported: the innermost parenthesis that
is open there if it is not closed, else the beginning of the rest. -/
def ReportedAt (finish : Nat) (front rest : List Token) (mistake : Mistake) : Prop :=
  match mistake.reason with
  | .emptyExpression => False
  | .missingClose => ∃ place, mistake.position = some place ∧
      ∀ opened, ∃ outer, openBehind opened front = place :: outer
  | _ => mistake.position = some (startOf finish rest)

/-- Tokens fail to be a `Whole` between `front` and `rest`: the front is the beginning of one, what
has it and the first token of the rest fails, and the mistake is reported there. -/
structure StopsBetween (finish : Nat) (Fails : List Token → Prop) (Whole : List Lexeme → Prop)
    (mistake : Mistake) (front rest : List Token) : Prop where
  begins : ∃ more, Whole (lexemesOf front ++ more)
  fails : ∀ t tail, rest = t :: tail → ∀ other, Fails (front ++ t :: other)
  reported : ReportedAt finish front rest mistake

/-- Tokens fail to be a `Whole` somewhere among them or at their end. -/
def StopsIn (finish : Nat) (Fails : List Token → Prop) (Whole : List Lexeme → Prop)
    (mistake : Mistake) (ts : List Token) : Prop :=
  ∃ front rest, ts = front ++ rest ∧ StopsBetween finish Fails Whole mistake front rest

/-- A parsing function fails on the tokens. -/
def Rejects {α : Type} (parse : (ts : List Token) → Parsed α ts) (ts : List Token) : Prop :=
  ∃ mistake, parse ts = .error mistake

section Stopping

variable {finish : Nat} {Fails Fails' : List Token → Prop} {Whole Whole' : List Lexeme → Prop}
variable {mistake : Mistake} {ts front rest : List Token}

theorem openBehind_append (opened : List Nat) (front rest : List Token) :
    openBehind opened (front ++ rest) = openBehind (openBehind opened front) rest :=
  List.foldl_append

/-- What was read before does not change the place of a mistake. -/
theorem ReportedAt.prepend (before : List Token) (reported : ReportedAt finish front rest mistake) :
    ReportedAt finish (before ++ front) rest mistake := by
  obtain ⟨reason, position⟩ := mistake
  cases reason with
  | missingClose =>
    obtain ⟨place, same, innermost⟩ := reported
    refine ⟨place, same, fun opened => ?_⟩
    rw [openBehind_append]
    exact innermost _
  | _ => exact reported

/-- Tokens fail at the first of them. -/
theorem StopsIn.here (whole : ∃ lexemes, Whole lexemes)
    (fails : ∀ t tail, ts = t :: tail → ∀ other, Fails (t :: other))
    (reported : ReportedAt finish [] ts mistake) : StopsIn finish Fails Whole mistake ts :=
  ⟨[], ts, rfl, whole, fails, reported⟩

/-- A parsing function that looks at the first token alone to fail stops there. -/
theorem StopsIn.atFirst {α : Type} {parse : (ts : List Token) → Parsed α ts}
    (failed : parse ts = .error mistake) (whole : ∃ lexemes, Whole lexemes)
    (atEnd : ∀ mistake, parse [] = .error mistake → ReportedAt finish [] [] mistake)
    (atToken : ∀ t rest mistake, parse (t :: rest) = .error mistake →
      ReportedAt finish [] (t :: rest) mistake ∧ ∀ other, Rejects parse (t :: other)) :
    StopsIn finish (Rejects parse) Whole mistake ts := by
  cases ts with
  | nil => exact .here whole nofun (atEnd mistake failed)
  | cons t rest =>
    obtain ⟨reported, again⟩ := atToken t rest mistake failed
    refine .here whole ?_ reported
    rintro _ _ ⟨⟩ other
    exact again other

/-- **A part fails, and so does the whole**, behind the tokens that were read before; more tokens
may be missing behind the part. -/
theorem StopsIn.enclose (before : List Token) (stops : StopsIn finish Fails Whole mistake ts)
    (whole : ∀ lexemes, Whole lexemes → ∃ more, Whole' (lexemesOf before ++ (lexemes ++ more)))
    (fails : ∀ us, us.head? = ts.head? → Fails us → Fails' (before ++ us)) :
    StopsIn finish Fails' Whole' mistake (before ++ ts) := by
  obtain ⟨front, rest, rfl, ⟨more, begins⟩, failsThere, reported⟩ := stops
  refine ⟨before ++ front, rest, (List.append_assoc ..).symm, ?_, ?_, reported.prepend before⟩
  · obtain ⟨further, isWhole⟩ := whole _ begins
    refine ⟨more ++ further, ?_⟩
    rw [lexemesOf_append, List.append_assoc, ← List.append_assoc (lexemesOf front)]
    exact isWhole
  · rintro t tail rfl other
    rw [List.append_assoc]
    refine fails _ ?_ (failsThere t tail rfl other)
    cases front <;> rfl

/-- The part is the last one. -/
theorem StopsIn.prepend (before : List Token) (stops : StopsIn finish Fails Whole mistake ts)
    (whole : ∀ lexemes, Whole lexemes → Whole' (lexemesOf before ++ lexemes))
    (fails : ∀ us, us.head? = ts.head? → Fails us → Fails' (before ++ us)) :
    StopsIn finish Fails' Whole' mistake (before ++ ts) :=
  stops.enclose before
    (fun lexemes part => ⟨[], by rw [List.append_nil]; exact whole lexemes part⟩) fails

/-- The part is the first one. -/
theorem StopsIn.imp (stops : StopsIn finish Fails Whole mistake ts)
    (whole : ∀ lexemes, Whole lexemes → ∃ more, Whole' (lexemes ++ more))
    (fails : ∀ us, us.head? = ts.head? → Fails us → Fails' us) :
    StopsIn finish Fails' Whole' mistake ts := by
  have same : StopsIn finish Fails' Whole' mistake ([] ++ ts) := stops.enclose [] whole fails
  exact same

end Stopping

/-! ### Tests -/

section Tests

variable {finish : Nat} {mistake : Mistake} {ts : List Token}

theorem stopsIn_operandNumber {comparator : Comparator}
    (failed : parseOperandNumber finish comparator ts = .error mistake) :
    StopsIn finish (Rejects (parseOperandNumber finish comparator))
      (fun lexemes => ∃ numeral, lexemes = [.number numeral]) mistake ts := by
  refine .atFirst failed ⟨_, [], rfl⟩ (by rintro _ ⟨⟩; rfl) ?_
  rintro ⟨lexeme, position⟩ rest mistake failed
  cases lexeme <;> cases failed <;> exact ⟨rfl, fun _ => ⟨_, rfl⟩⟩

theorem stopsIn_bound {part : BetweenPart} (failed : parseBound finish part ts = .error mistake) :
    StopsIn finish (Rejects (parseBound finish part))
      (fun lexemes => ∃ numeral, lexemes = [.number numeral]) mistake ts := by
  refine .atFirst failed ⟨_, [], rfl⟩ (by rintro _ ⟨⟩; rfl) ?_
  rintro ⟨lexeme, position⟩ rest mistake failed
  cases lexeme <;> cases failed <;> exact ⟨rfl, fun _ => ⟨_, rfl⟩⟩

theorem stopsIn_text {how : TextMatch} (failed : parseText finish how ts = .error mistake) :
    StopsIn finish (Rejects (parseText finish how))
      (fun lexemes => ∃ text, lexemes = [.quoted text]) mistake ts := by
  refine .atFirst failed ⟨_, [], rfl⟩ (by rintro _ ⟨⟩; rfl) ?_
  rintro ⟨lexeme, position⟩ rest mistake failed
  cases lexeme <;> cases failed <;> exact ⟨rfl, fun _ => ⟨_, rfl⟩⟩

theorem stopsIn_conjunction (failed : parseConjunction finish ts = .error mistake) :
    StopsIn finish (Rejects (parseConjunction finish))
      (fun lexemes => lexemes = [.word "and".toList]) mistake ts := by
  refine .atFirst failed ⟨_, rfl⟩ (by rintro _ ⟨⟩; rfl) ?_
  rintro ⟨lexeme, position⟩ rest mistake failed
  cases lexeme with
  | word w =>
    rw [parseConjunction] at failed
    split at failed
    · cases failed
    · rename_i other
      cases failed
      exact ⟨rfl, fun _ => ⟨_, by rw [parseConjunction, if_neg other]⟩⟩
  | _ =>
    cases failed
    exact ⟨rfl, fun _ => ⟨_, rfl⟩⟩

/-- The lexemes of a `between` clause behind its keyword. -/
def IsBetween (lexemes : List Lexeme) : Prop :=
  ∃ lower upper, lexemes = [.number lower, .word "and".toList, .number upper]

theorem parseBound_number {part : BetweenPart} {numeral : List Char} {position : Nat} :
    parseBound finish part (⟨.number numeral, position⟩ :: ts) =
      .ok ⟨numeralValue numeral 0, ts, Nat.lt_succ_self _⟩ := rfl

theorem stopsIn_between (failed : parseBetween finish ts = .error mistake) :
    StopsIn finish (Rejects (parseBetween finish)) IsBetween mistake ts := by
  unfold parseBetween at failed
  split at failed
  · rename_i firstFailed
    cases failed
    refine (stopsIn_bound firstFailed).imp ?_ ?_
    · rintro _ ⟨numeral, rfl⟩
      exact ⟨_, numeral, [], rfl⟩
    · rintro us _ ⟨mistake, failed⟩
      exact ⟨mistake, by rw [parseBetween, failed]⟩
  · rename_i lower readLower
    obtain ⟨first, position, same, _⟩ := number_of_parseBound readLower
    rw [same]
    split at failed
    · rename_i secondFailed
      cases failed
      refine (stopsIn_conjunction secondFailed).enclose [_] ?_ ?_
      · rintro _ rfl
        exact ⟨[.number []], first, [], rfl⟩
      · rintro us _ ⟨mistake, failed⟩
        refine ⟨mistake, ?_⟩
        simp only [List.singleton_append, parseBetween, parseBound_number, failed]
    · rename_i conjunction readConjunction
      obtain ⟨position', same'⟩ := word_of_parseConjunction readConjunction
      rw [same']
      split at failed
      · rename_i thirdFailed
        cases failed
        refine (stopsIn_bound thirdFailed).prepend [_, _] ?_ ?_
        · rintro _ ⟨second, rfl⟩
          exact ⟨first, second, rfl⟩
        · rintro us _ ⟨mistake, failed⟩
          refine ⟨mistake, ?_⟩
          simp only [List.cons_append, List.nil_append, parseBetween, parseBound_number,
            parseConjunction, if_true, failed]
      · cases failed

/-- What stands behind the word `value` in a test. -/
def EndsTest (lexemes : List Lexeme) : Prop :=
  ∃ test, TestPhrase (.word "value".toList :: lexemes) test

theorem stopsIn_comparison (failed : parseComparison finish ts = .error mistake) :
    StopsIn finish (Rejects (parseComparison finish)) EndsTest mistake ts := by
  have some_ : ∃ lexemes, EndsTest lexemes := ⟨_, _, .has .isEmpty⟩
  cases ts with
  | nil =>
    cases failed
    exact .here some_ nofun rfl
  | cons t rest =>
    obtain ⟨lexeme, position⟩ := t
    cases lexeme with
    | comparator comparator =>
      rw [parseComparison, map_eq_error_iff] at failed
      refine (stopsIn_operandNumber failed).prepend [_] ?_ ?_
      · rintro _ ⟨numeral, rfl⟩
        exact ⟨_, .compare comparator numeral⟩
      · rintro us _ ⟨mistake, failed⟩
        exact ⟨mistake, by rw [List.singleton_append, parseComparison, failed]; rfl⟩
    | word w =>
      rw [parseComparison, parseKeyword] at failed
      split at failed
      · rename_i unknown
        cases failed
        refine .here some_ ?_ rfl
        rintro _ _ ⟨⟩ other
        exact ⟨_, by rw [parseComparison, parseKeyword, unknown]⟩
      · rename_i found
        rw [map_eq_error_iff] at failed
        refine (stopsIn_between failed).prepend [_] ?_ ?_
        · rintro _ ⟨lower, upper, rfl⟩
          rw [Keyword.word_of_ofWord? found]
          exact ⟨_, .between lower upper⟩
        · rintro us _ ⟨mistake, failed⟩
          refine ⟨mistake, ?_⟩
          rw [List.singleton_append, parseComparison, parseKeyword, found]
          simp only [failed]
          rfl
      · rename_i how found
        rw [map_eq_error_iff] at failed
        refine (stopsIn_text failed).prepend [_] ?_ ?_
        · rintro _ ⟨text, rfl⟩
          rw [Keyword.word_of_ofWord? found]
          exact ⟨_, .matchText how text⟩
        · rintro us _ ⟨mistake, failed⟩
          refine ⟨mistake, ?_⟩
          rw [List.singleton_append, parseComparison, parseKeyword, found]
          simp only [failed]
          rfl
      · cases failed
    | _ =>
      cases failed
      exact .here some_ (by rintro _ _ ⟨⟩ other; exact ⟨_, rfl⟩) rfl

/-- **A test that fails stops in its tokens.** -/
theorem stopsIn_test (failed : parseTest finish ts = .error mistake) :
    StopsIn finish (Rejects (parseTest finish)) (fun lexemes => ∃ test, TestPhrase lexemes test)
      mistake ts := by
  have some_ : ∃ lexemes test, TestPhrase lexemes test := ⟨_, _, .has .isEmpty⟩
  cases ts with
  | nil =>
    cases failed
    exact .here some_ nofun rfl
  | cons t rest =>
    rw [parseTest] at failed
    split at failed
    · rename_i isValue
      rw [map_eq_error_iff] at failed
      refine (stopsIn_comparison failed).prepend [t] ?_ ?_
      · rintro lexemes ⟨test, phrase⟩
        refine ⟨test, ?_⟩
        rw [lexemesOf_cons, isValue]
        exact phrase
      · rintro us _ ⟨mistake, failed⟩
        exact ⟨mistake, by rw [List.singleton_append, parseTest, if_pos isValue, failed]; rfl⟩
    · rename_i notValue
      cases failed
      refine .here some_ ?_ rfl
      rintro _ _ ⟨⟩ other
      exact ⟨_, by rw [parseTest, if_neg notValue]⟩

end Tests

end SheetExport.Condition
