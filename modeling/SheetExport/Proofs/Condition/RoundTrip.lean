/-
**The written form of a condition, read back.**

* `Tree.Complete` — the shape of the trees that parsing builds (`complete_of_parse`): every test has
  its operands, no text contains a quote, and no two conditions are joined by `not`;
* `Tree.same` — equality of trees with numbers compared as numbers, so that the two zeros are one;
* `Tree.exists_spelt`, `Tree.misspelt` — the text of a tree spells a phrase of an equal tree if all
  its numbers are `Writable`, and is misspelt otherwise, whatever closing text stands behind it;
* `parse_text_iff`: the text of a complete tree is read back to an equal tree exactly when all its
  numbers are writable, and is no condition in every other case.
-/

import SheetExport.Proofs.Condition.Operand
import SheetExport.Proofs.Condition.Spelling

namespace SheetExport

namespace Condition

/-! ### Trees -/

/-- The test has the operands that its kind asks for. -/
def Test.Complete : Test → Prop
  | compare _ operand => operand.isSome = true
  | between lower upper => lower.isSome = true ∧ upper.isSome = true
  | matchText _ operand => ∃ text, operand = some text ∧ '\'' ∉ text.toList
  | has _ => True

/-- Every test has its operands, and only and, or and exclusive or join two conditions. -/
def Tree.Complete : Tree → Prop
  | test t => t.Complete
  | join connective left right => connective ≠ .not ∧ left.Complete ∧ right.Complete
  | negate operand => operand.Complete

/-- The numbers that a test has as operands. -/
def Test.numbers : Test → List Float
  | compare _ operand => operand.toList
  | between lower upper => lower.toList ++ upper.toList
  | _ => []

/-- The numbers in a condition. -/
def Tree.numbers : Tree → List Float
  | test t => t.numbers
  | join _ left right => left.numbers ++ right.numbers
  | negate operand => operand.numbers

/-- Both missing, or equal numbers. -/
def sameNumber : Option Float → Option Float → Bool
  | some x, some y => x == y
  | none, none => true
  | _, _ => false

/-- The same kind of test with equal operands. -/
def Test.same : Test → Test → Bool
  | compare comparator x, compare comparator' x' => comparator = comparator' && sameNumber x x'
  | between x y, between x' y' => sameNumber x x' && sameNumber y y'
  | matchText how text, matchText how' text' => how = how' && text = text'
  | has property, has property' => property = property'
  | _, _ => false

/-- The same tree up to equality of numbers. -/
def Tree.same : Tree → Tree → Bool
  | test t, test t' => t.same t'
  | join connective left right, join connective' left' right' =>
    connective = connective' && left.same left' && right.same right'
  | negate operand, negate operand' => operand.same operand'
  | _, _ => false

/-! ### Trees that parsing builds -/

section Parsed

/-- No quoted text among the lexemes contains a quote. -/
def QuotesEnd (lexemes : List Lexeme) : Prop :=
  ∀ text, Lexeme.quoted text ∈ lexemes → '\'' ∉ text

theorem QuotesEnd.subset {front lexemes : List Lexeme} (ends : QuotesEnd lexemes)
    (within : front ⊆ lexemes) : QuotesEnd front :=
  fun text member => ends text (within member)

theorem quotesEnd_of_nextLexeme {c : Char} {cs rest : List Char} {lexeme : Lexeme}
    (read : nextLexeme c cs = .ok (lexeme, rest)) : QuotesEnd [lexeme] := by
  intro text member
  cases List.mem_singleton.mp member
  unfold nextLexeme at read
  split at read
  · split at read
    · cases read
    · cases read
      intro inside
      simpa using List.mem_takeWhile_imp inside
  · split at read
    · split at read <;> cases read
    · split at read
      · rename_i symbol
        cases read
        unfold symbol? at symbol
        split at symbol <;> cases symbol
      · split at read <;> cases read

theorem quotesEnd_of_tokensFrom {position : Nat} {cs : List Char} {tokens : List Token}
    (read : tokensFrom position cs = .ok tokens) : QuotesEnd (lexemesOf tokens) := by
  fun_induction tokensFrom position cs generalizing tokens with
  | case1 =>
    cases read
    intro text member
    cases member
  | case2 position c rest blank ih => exact ih read
  | case3 => cases read
  | case4 => cases read
  | case5 position c rest notBlank lexeme after next more others ih =>
    cases read
    intro text member
    rcases List.mem_cons.mp member with first | later
    · exact quotesEnd_of_nextLexeme next text (List.mem_singleton.mpr first)
    · exact ih others text later

theorem TestPhrase.complete {lexemes : List Lexeme} {t : Test} (phrase : TestPhrase lexemes t)
    (ends : QuotesEnd lexemes) : t.Complete := by
  cases phrase with
  | compare comparator numeral => rfl
  | between lower upper => exact ⟨rfl, rfl⟩
  | matchText how text =>
    exact ⟨_, rfl, by simpa using ends text (by simp)⟩
  | has property => trivial

theorem complete_foldl {connective : Connective} (notNot : connective ≠ .not)
    {further : List Further} {first : Tree} (head : first.Complete)
    (others : ∀ f ∈ further, f.tree.Complete) :
    (further.foldl (fun left f => .join connective left f.tree) first).Complete := by
  induction further generalizing first with
  | nil => exact head
  | cons f further ih =>
    obtain ⟨next, later⟩ := List.forall_mem_cons.mp others
    exact ih ⟨notNot, head, next⟩ later

/-- What lexemes derive is complete. -/
theorem Derives.complete {phrase : Phrase} {lexemes : List Lexeme} {t : Tree}
    (derives : Derives phrase lexemes t) (ends : QuotesEnd lexemes) : t.Complete := by
  induction derives with
  | joined level further head operators operands inHead inOperands =>
    have notNot : level.connective ≠ .not := by cases level <;> decide
    refine complete_foldl notNot (inHead (ends.subset (List.subset_append_left _ _))) ?_
    intro f member
    refine inOperands f member (ends.subset fun lexeme inside => ?_)
    refine List.mem_append_right _ (List.mem_flatMap.mpr ⟨f, member, ?_⟩)
    exact List.mem_cons_of_mem _ inside
  | negation operand ih => exact ih (ends.subset (List.subset_cons_self _ _))
  | parentheses enclosed ih =>
    exact ih (ends.subset fun _ member => List.mem_append_left _ (List.mem_cons_of_mem _ member))
  | test phrase => exact phrase.complete ends

/-- **What parsing builds is complete.** -/
theorem complete_of_parse {expression : String} {c : Condition}
    (parsed : Condition.parse expression = .ok c) : c.root.Complete := by
  unfold Condition.parse tokenize at parsed
  split at parsed
  · cases parsed
  · split at parsed
    · cases parsed
    · rename_i lexed tokens
      split at parsed
      · cases parsed
      · rename_i root built
        cases parsed
        split at tokens
        · rename_i read
          cases tokens
          exact (parse_eq_ok_iff_derives.mp built).complete (quotesEnd_of_tokensFrom read)
        · cases tokens

/-- A condition remembers the text that it was parsed from. -/
theorem source_of_parse {expression : String} {c : Condition}
    (parsed : Condition.parse expression = .ok c) : c.source = expression := by
  unfold Condition.parse at parsed
  split at parsed
  · cases parsed
  · split at parsed
    · cases parsed
    · split at parsed <;> cases parsed
      rfl

end Parsed

/-! ### Numbers in a text -/

section Numbers

variable {x : Float} {rest : List Char}

/-- What stands behind an operand: a space, a closing parenthesis or nothing. -/
def Closes (rest : List Char) : Prop := ∀ c ∈ rest.head?, c = ' ' ∨ c = ')'

theorem closes_nil : Closes [] := by
  intro c head
  cases head

theorem closes_space (rest : List Char) : Closes (' ' :: rest) := by
  intro c head
  cases head
  exact Or.inl rfl

theorem closes_close (rest : List Char) : Closes (')' :: rest) := by
  intro c head
  cases head
  exact Or.inr rfl

theorem Closes.numeral (closes : Closes rest) : PlainNumeral.Ends rest := by
  intro c head
  rcases closes c head with rfl | rfl <;> decide

theorem Closes.word (closes : Closes rest) : WordEnds rest := by
  intro c head
  rcases closes c head with rfl | rfl <;> rfl

theorem Spells.plainNumeral (numeral : PlainNumeral) (ends : PlainNumeral.Ends rest) :
    Spells (numeral.text ++ rest) [.number numeral.text] rest := by
  have scanned := numeral.scanNumber_append ends
  obtain ⟨c, cs, text, starts⟩ := numeral.exists_text
  rw [text, List.cons_append] at scanned ⊢
  have plain : Text.isBlank c = false ∧ c ≠ '\'' ∧ startsNumber c = true := by
    rcases starts with rfl | digit
    · decide
    · have decimal := isDecimalDigit_of_isDigit digit
      obtain ⟨least, greatest⟩ := toNat_of_isDigit digit
      refine ⟨?_, ?_, by simp [startsNumber, Text.isDigitLike, decimal]⟩
      · simp only [Text.isBlank, Text.blankRanges, Text.Ranges.covers, Bool.and_eq_false_iff,
          Bool.or_eq_false_iff, decide_eq_false_iff_not]
        omega
      · rintro rfl
        exact absurd least (by decide)
  exact Spells.number plain.1 plain.2.1 plain.2.2 scanned

/-- A writable number is read back as one lexeme. -/
theorem exists_spells_numberText (writable : Writable x) :
    ∃ numeral, (numeralValue numeral 0 == x) = true ∧ ∀ rest, Closes rest →
      Spells ((numberText x).toList ++ rest) [.number numeral] rest := by
  obtain ⟨numeral, text, value⟩ := numberText_of_writable writable
  refine ⟨numeral.text, value, fun rest closes => ?_⟩
  rw [text]
  exact Spells.plainNumeral numeral closes.numeral

/-- Every other number is misspelt. -/
theorem misspelt_numberText (notWritable : ¬ Writable x) (closes : Closes rest) :
    Misspelt ((numberText x).toList ++ rest) := by
  rcases numberText_of_not_writable notWritable with special | ⟨numeral, tail, text⟩
  · simp only [List.mem_cons, List.not_mem_nil, or_false] at special
    rcases special with text | text | text
    · rw [text]
      exact Misspelt.word (by decide) closes.word (by decide)
    · rw [text]
      exact Misspelt.word (by decide) closes.word (by decide)
    · rw [text]
      exact ⟨[], _, Spells.nil _, Or.inr ⟨'-', _, _, rfl, rfl, rfl⟩⟩
  · -- The numeral before the exponent is read as a number, and its mark as a word.
    rw [text, List.append_assoc]
    have ends : PlainNumeral.Ends (('e' :: '-' :: tail) ++ rest) := by
      intro c head
      cases head
      decide
    have wordEnds : WordEnds ('-' :: (tail ++ rest)) := by
      intro c head
      cases head
      rfl
    exact Misspelt.after (Spells.plainNumeral numeral ends)
      (Misspelt.word (w := ['e']) (by decide) wordEnds (by decide))

end Numbers

/-! ### Symbols and words in a text -/

section Symbols

variable {cs rest : List Char} {lexemes : List Lexeme}

theorem Comparator.spells (comparator : Comparator) (rest : List Char) :
    Spells (comparator.symbol.toList ++ ' ' :: rest) [.comparator comparator] (' ' :: rest) := by
  cases comparator <;> exact Spells.symbol (by decide) rfl

theorem Connective.spells (connective : Connective) (rest : List Char) :
    Spells (connective.symbol.toList ++ ' ' :: rest) [.connective connective] (' ' :: rest) := by
  cases connective <;> exact Spells.symbol (by decide) rfl

theorem isPlainWord_keyword (keyword : Keyword) : isPlainWord keyword.word = true := by
  cases keyword with
  | between => decide +kernel
  | matchText how => cases how <;> decide +kernel
  | has property => cases property <;> decide +kernel

/-- A word and a space, and then the rest of the text. -/
theorem Spells.wordThen {w : List Char} (plain : isPlainWord w = true)
    (follows : Spells cs lexemes rest) : Spells (w ++ ' ' :: cs) (.word w :: lexemes) rest :=
  Spells.space (Spells.word plain (closes_space cs).word) follows

end Symbols

/-! ### Tests -/

/-- **A test of writable numbers spells a test of the grammar.** -/
theorem Test.exists_spelt {t : Test} (complete : t.Complete)
    (writable : ∀ x ∈ t.numbers, Writable x) :
    ∃ lexemes t', TestPhrase lexemes t' ∧ t'.same t = true ∧ ∀ rest, Closes rest →
      Spells (t.text.toList ++ rest) lexemes rest := by
  cases t with
  | compare comparator operand =>
    obtain ⟨x, rfl⟩ := Option.isSome_iff_exists.mp complete
    obtain ⟨numeral, value, spells⟩ := exists_spells_numberText (writable x (by simp [numbers]))
    refine ⟨_, _, .compare comparator numeral, by simp [same, sameNumber, value], ?_⟩
    intro rest closes
    have number := (comparator.spells _).space (spells rest closes)
    have whole := Spells.wordThen (w := "value".toList) (by decide) number
    simpa [text] using whole
  | between lower upper =>
    obtain ⟨x, rfl⟩ := Option.isSome_iff_exists.mp complete.1
    obtain ⟨y, rfl⟩ := Option.isSome_iff_exists.mp complete.2
    obtain ⟨low, lowValue, lowSpells⟩ :=
      exists_spells_numberText (writable x (by simp [numbers]))
    obtain ⟨high, highValue, highSpells⟩ :=
      exists_spells_numberText (writable y (by simp [numbers]))
    refine ⟨_, _, .between low high, by simp [same, sameNumber, lowValue, highValue], ?_⟩
    intro rest closes
    have bounds := (lowSpells _ (closes_space _)).space
      (Spells.wordThen (w := "and".toList) (by decide) (highSpells rest closes))
    have whole := Spells.wordThen (w := "value".toList) (by decide)
      (Spells.wordThen (isPlainWord_keyword .between) bounds)
    simpa [text, Keyword.word] using whole
  | matchText how operand =>
    obtain ⟨quoted, rfl, noQuote⟩ := complete
    refine ⟨_, _, .matchText how quoted.toList, by simp [same], ?_⟩
    intro rest closes
    have inQuotes : Spells ('\'' :: quoted.toList ++ '\'' :: rest) [.quoted quoted.toList] rest :=
      Spells.quoted noQuote
    have whole := Spells.wordThen (w := "value".toList) (by decide)
      (Spells.wordThen (isPlainWord_keyword (.matchText how)) inQuotes)
    simpa [text, Keyword.word] using whole
  | has property =>
    refine ⟨_, _, .has property, by simp [same], ?_⟩
    intro rest closes
    have whole := Spells.wordThen (w := "value".toList) (by decide)
      (Spells.word (isPlainWord_keyword (.has property)) closes.word)
    simpa [text, Keyword.word] using whole

/-- **A test of any other number is misspelt.** -/
theorem Test.misspelt {t : Test} (complete : t.Complete)
    (notWritable : ¬ ∀ x ∈ t.numbers, Writable x) {rest : List Char} (closes : Closes rest) :
    Misspelt (t.text.toList ++ rest) := by
  cases t with
  | compare comparator operand =>
    obtain ⟨x, rfl⟩ := Option.isSome_iff_exists.mp complete
    have unwritable : ¬ Writable x := by simpa [numbers] using notWritable
    have before := Spells.wordThen (w := "value".toList) (by decide)
      ((comparator.spells _).space (Spells.nil ((numberText x).toList ++ rest)))
    have whole := (misspelt_numberText unwritable closes).after before
    simpa [text] using whole
  | between lower upper =>
    obtain ⟨x, rfl⟩ := Option.isSome_iff_exists.mp complete.1
    obtain ⟨y, rfl⟩ := Option.isSome_iff_exists.mp complete.2
    by_cases lowWritable : Writable x
    · have unwritable : ¬ Writable y := by
        intro highWritable
        simp [numbers, lowWritable, highWritable] at notWritable
      obtain ⟨low, _, spells⟩ := exists_spells_numberText lowWritable
      have bounds := (spells _ (closes_space _)).space
        (Spells.wordThen (w := "and".toList) (by decide)
          (Spells.nil ((numberText y).toList ++ rest)))
      have before := Spells.wordThen (w := "value".toList) (by decide)
        (Spells.wordThen (isPlainWord_keyword .between) bounds)
      have whole := (misspelt_numberText unwritable closes).after before
      simpa [text, Keyword.word] using whole
    · have before := Spells.wordThen (w := "value".toList) (by decide)
        (Spells.wordThen (isPlainWord_keyword .between)
          (Spells.nil ((numberText x).toList ++ (" and " ++ numberText y).toList ++ rest)))
      have stops : Closes ((" and " ++ numberText y).toList ++ rest) := by
        simpa using closes_space _
      have whole := (misspelt_numberText lowWritable stops).after
        (by simpa [List.append_assoc] using before)
      simpa [text, Keyword.word] using whole
  | matchText how operand => simp [numbers] at notWritable
  | has property => simp [numbers] at notWritable

/-! ### Trees -/

/-- An operand is a joined phrase of every level. -/
theorem Derives.ofUnary {lexemes : List Lexeme} {tree : Tree} (unary : Derives .unary lexemes tree)
    (level : Level) : Derives (.joined level) lexemes tree := by
  have inAnd : Derives (.joined .and) lexemes tree := Derives.single unary
  have inXor : Derives (.joined .xor) lexemes tree := Derives.single inAnd
  cases level with
  | and => exact inAnd
  | xor => exact inXor
  | or => exact Derives.single inXor

/-- A joined phrase of any level is one of the loosest. -/
theorem Derives.toLoosest {lexemes : List Lexeme} {tree : Tree} {level : Level}
    (joined : Derives (.joined level) lexemes tree) : Derives (.joined .or) lexemes tree := by
  cases level with
  | or => exact joined
  | xor => exact Derives.single joined
  | and =>
    have inXor : Derives (.joined .xor) lexemes tree := Derives.single joined
    exact Derives.single inXor

/-- The level that a connective joins at, unless it is `not`. -/
theorem Connective.exists_level {connective : Connective} (notNot : connective ≠ .not) :
    ∃ level : Level, level.connective = connective ∧
      Lexeme.connective connective ∈ level.operators := by
  cases connective with
  | and => exact ⟨.and, rfl, by simp [Level.operators]⟩
  | or => exact ⟨.or, rfl, by simp [Level.operators]⟩
  | xor => exact ⟨.xor, rfl, by simp [Level.operators]⟩
  | not => exact absurd rfl notNot

/-- Two operands in parentheses. -/
theorem Derives.parenthesised {connective : Connective} (notNot : connective ≠ .not)
    {first second : List Lexeme} {left right : Tree} (onLeft : Derives .unary first left)
    (onRight : Derives .unary second right) :
    Derives .unary
      (.leftParen :: (first ++ .connective connective :: second) ++ [.rightParen])
      (.join connective left right) := by
  obtain ⟨level, rfl, operator⟩ := Connective.exists_level notNot
  have operand : Derives level.operand second right := by
    cases level with
    | or => exact onRight.ofUnary .xor
    | xor => exact onRight.ofUnary .and
    | and => exact onRight
  exact ((onLeft.ofUnary level).join operator operand).toLoosest.parentheses

/-- The character that the text of a tree begins with. -/
theorem Tree.exists_text (t : Tree) : ∃ c cs, t.text.toList = c :: cs ∧ c ∈ ['v', '(', '!'] := by
  cases t with
  | test t =>
    have value : 'v' ∈ t.text.toList.head? := by cases t <;> simp [Test.text]
    obtain ⟨cs, same⟩ := List.head?_eq_some_iff.mp value
    exact ⟨'v', cs, same, by simp⟩
  | join connective left right =>
    have opening : '(' ∈ (join connective left right).text.toList.head? := by simp [text]
    obtain ⟨cs, same⟩ := List.head?_eq_some_iff.mp opening
    exact ⟨'(', cs, same, by simp⟩
  | negate operand =>
    have mark : '!' ∈ operand.negate.text.toList.head? := by simp [text]
    obtain ⟨cs, same⟩ := List.head?_eq_some_iff.mp mark
    exact ⟨'!', cs, same, by simp⟩

/-- The sign of a negation is not read together with what is negated. -/
theorem Spells.negation (t : Tree) (rest : List Char) :
    Spells ('!' :: (t.text.toList ++ rest)) [.connective .not] (t.text.toList ++ rest) := by
  obtain ⟨c, cs, text, starts⟩ := t.exists_text
  refine Spells.symbol (by decide) ?_
  rw [text, List.cons_append]
  simp only [List.mem_cons, List.not_mem_nil, or_false] at starts
  rcases starts with rfl | rfl | rfl <;> rfl

/-- **The text of a tree with writable numbers spells a phrase of an equal tree.** -/
theorem Tree.exists_spelt {t : Tree} (complete : t.Complete)
    (writable : ∀ x ∈ t.numbers, Writable x) :
    ∃ lexemes t', Derives .unary lexemes t' ∧ t'.same t = true ∧ ∀ rest, Closes rest →
      Spells (t.text.toList ++ rest) lexemes rest := by
  induction t with
  | test t =>
    obtain ⟨lexemes, t', phrase, same, spells⟩ := Test.exists_spelt complete writable
    exact ⟨lexemes, .test t', .test phrase, same, spells⟩
  | join connective left right onLeft onRight =>
    obtain ⟨notNot, leftComplete, rightComplete⟩ := complete
    obtain ⟨first, left', leftDerives, leftSame, leftSpells⟩ :=
      onLeft leftComplete fun x member => writable x (List.mem_append_left _ member)
    obtain ⟨second, right', rightDerives, rightSame, rightSpells⟩ :=
      onRight rightComplete fun x member => writable x (List.mem_append_right _ member)
    refine ⟨_, _, Derives.parenthesised notNot leftDerives rightDerives,
      by simp [same, leftSame, rightSame], fun rest _ => ?_⟩
    have opening : Spells ('(' :: (left.text.toList ++ ' ' :: (connective.symbol.toList ++
        ' ' :: (right.text.toList ++ ')' :: rest)))) [.leftParen] _ :=
      Spells.symbol (by decide) rfl
    have closing : Spells (')' :: rest) [.rightParen] rest := Spells.symbol (by decide) rfl
    have operands := (leftSpells _ (closes_space _)).space
      ((connective.spells _).space ((rightSpells _ (closes_close rest)).append closing))
    have whole := opening.append operands
    simpa [text] using whole
  | negate operand ih =>
    obtain ⟨lexemes, tree, derives, same, spells⟩ := ih complete writable
    refine ⟨_, _, derives.negation, same, fun rest closes => ?_⟩
    have whole := (Spells.negation operand rest).append (spells rest closes)
    simpa [text] using whole

/-- **The text of a tree with any other number is misspelt.** -/
theorem Tree.misspelt {t : Tree} (complete : t.Complete)
    (notWritable : ¬ ∀ x ∈ t.numbers, Writable x) {rest : List Char} (closes : Closes rest) :
    Misspelt (t.text.toList ++ rest) := by
  induction t generalizing rest with
  | test t => exact Test.misspelt complete notWritable closes
  | join connective left right onLeft onRight =>
    obtain ⟨notNot, leftComplete, rightComplete⟩ := complete
    have opening : Spells ('(' :: (left.text.toList ++ ' ' :: (connective.symbol.toList ++
        ' ' :: (right.text.toList ++ ')' :: rest)))) [.leftParen] _ :=
      Spells.symbol (by decide) rfl
    by_cases leftWritable : ∀ x ∈ left.numbers, Writable x
    · have rightWrong : ¬ ∀ x ∈ right.numbers, Writable x := by
        intro rightWritable
        refine notWritable fun x member => ?_
        rcases List.mem_append.mp member with inLeft | inRight
        · exact leftWritable x inLeft
        · exact rightWritable x inRight
      obtain ⟨first, _, _, _, spells⟩ := Tree.exists_spelt leftComplete leftWritable
      have before := opening.append ((spells _ (closes_space _)).space
        ((connective.spells _).space (Spells.nil (right.text.toList ++ ')' :: rest))))
      have whole := (onRight rightComplete rightWrong (closes_close rest)).after before
      simpa [text] using whole
    · have whole := (onLeft leftComplete leftWritable (closes_space _)).after opening
      simpa [text] using whole
  | negate operand ih =>
    have whole := (ih complete notWritable closes).after (Spells.negation operand rest)
    simpa [text] using whole

theorem Tree.isAllBlank_text (t : Tree) : Text.isAllBlank t.text.toList = false := by
  obtain ⟨c, cs, text, starts⟩ := t.exists_text
  have notBlank : Text.isBlank c = false := by
    simp only [List.mem_cons, List.not_mem_nil, or_false] at starts
    rcases starts with rfl | rfl | rfl <;> decide
  simp [text, Text.isAllBlank, notBlank]

/-- The text of a complete condition is read back if its numbers can be written. -/
theorem exists_parse_text {t : Tree} (complete : t.Complete)
    (writable : ∀ x ∈ t.numbers, Writable x) :
    ∃ c, Condition.parse t.text = .ok c ∧ c.root.same t = true := by
  obtain ⟨lexemes, tree, derives, same, spells⟩ := Tree.exists_spelt complete writable
  have whole := spells [] closes_nil
  rw [List.append_nil] at whole
  refine ⟨⟨t.text, tree⟩, ?_, same⟩
  exact (whole.parse_eq_ok_iff t.isAllBlank_text).mpr ⟨rfl, derives.ofUnary .or⟩

theorem eq_of_sameNumber {x y : Option Float} (same : sameNumber x y = true)
    (missing : y.toList = []) : x = y := by
  cases x <;> cases y <;> first | rfl | cases same | cases missing

theorem Test.eq_of_same {s t : Test} (same : s.same t = true) (noNumbers : t.numbers = []) :
    s = t := by
  cases s <;> cases t <;> first | cases same | skip
  · simp only [Test.same, Bool.and_eq_true, decide_eq_true_eq] at same
    rw [same.1, eq_of_sameNumber same.2 noNumbers]
  · simp only [Test.same, Bool.and_eq_true] at same
    have missing := List.append_eq_nil_iff.mp noNumbers
    rw [eq_of_sameNumber same.1 missing.1, eq_of_sameNumber same.2 missing.2]
  · simp only [Test.same, Bool.and_eq_true, decide_eq_true_eq] at same
    rw [same.1, same.2]
  · rw [of_decide_eq_true same]

/-- Equal trees without numbers are the same. -/
theorem Tree.eq_of_same {s t : Tree} (same : s.same t = true) (noNumbers : t.numbers = []) :
    s = t := by
  induction t generalizing s with
  | test t =>
    cases s with
    | test s => rw [Test.eq_of_same same noNumbers]
    | _ => cases same
  | join connective left right onLeft onRight =>
    cases s with
    | join connective' left' right' =>
      simp only [Tree.same, Bool.and_eq_true, decide_eq_true_eq] at same
      have missing := List.append_eq_nil_iff.mp noNumbers
      rw [same.1.1, onLeft same.1.2 missing.1, onRight same.2 missing.2]
    | _ => cases same
  | negate operand ih =>
    cases s with
    | negate operand' => rw [ih same noNumbers]
    | _ => cases same

/-- The text of a complete condition without numbers is read back to the condition itself. -/
theorem parse_text_of_noNumbers {t : Tree} (complete : t.Complete) (noNumbers : t.numbers = []) :
    Condition.parse t.text = .ok ⟨t.text, t⟩ := by
  have writable : ∀ x ∈ t.numbers, Writable x := by
    rw [noNumbers]
    exact List.forall_mem_nil _
  obtain ⟨⟨source, root⟩, parsed, same⟩ := exists_parse_text complete writable
  have written : source = t.text := source_of_parse parsed
  have rebuilt : root = t := Tree.eq_of_same same noNumbers
  rw [parsed, written, rebuilt]

/-- **The text of a condition is read back to an equal condition just when its numbers can be
written**: when each is finite, and integral or at least one ten-thousandth in magnitude. In every
other case the text is a mistake. -/
theorem parse_text_iff {t : Tree} (complete : t.Complete) :
    ((∃ c, Condition.parse t.text = .ok c ∧ c.root.same t = true) ↔
      ∀ x ∈ t.numbers, Writable x) ∧
    ((¬ ∀ x ∈ t.numbers, Writable x) → ∃ e, Condition.parse t.text = .error e) := by
  have fails : (¬ ∀ x ∈ t.numbers, Writable x) → ∃ e, Condition.parse t.text = .error e := by
    intro notWritable
    have misspelt := Tree.misspelt complete notWritable closes_nil
    rw [List.append_nil] at misspelt
    exact misspelt.parse_eq_error
  refine ⟨⟨?_, ?_⟩, fails⟩
  · rintro ⟨c, parsed, _⟩
    by_contra notWritable
    obtain ⟨e, failed⟩ := fails notWritable
    cases parsed.symm.trans failed
  · exact exists_parse_text complete

/-- A condition on texts, and on numbers that are not both integral. -/
def sampleTree : Tree :=
  .join .xor (.negate (.test (.between (some 0.25) (some (-3)))))
    (.test (.matchText .contains (some "&& (")))

/-- The condition is read back. -/
theorem parse_text_iff_sample : sampleTree.Complete ∧
    ∃ c, Condition.parse sampleTree.text = .ok c ∧ c.root.same sampleTree = true := by
  have complete : sampleTree.Complete := ⟨by decide, ⟨rfl, rfl⟩, "&& (", rfl, by decide⟩
  refine ⟨complete, (parse_text_iff complete).1.mpr fun x member => ?_⟩
  simp only [sampleTree, Tree.numbers, Test.numbers, Option.toList_some, List.append_nil,
    List.mem_append, List.mem_singleton] at member
  rcases member with rfl | rfl
  · exact ⟨1 / 4, by decide +kernel, Or.inr (by norm_num [abs_of_pos])⟩
  · exact ⟨-3, by decide +kernel, Or.inl rfl⟩

end Condition

end SheetExport
