/-
**Texts and the lexemes they begin with.**

`Spells cs lexemes rest` says that reading `cs` gives the lexemes and goes on at `rest`, wherever in
a text `cs` stands. It composes, and each kind of lexeme has its lemma: words that are in lower case
already, symbols, numerals, quoted texts.

A text is `Misspelt` if reading it arrives at a character that begins no lexeme, or passes a word
that no condition has; such a text is no condition, whatever stands behind it.

* `Spells.parse_eq_ok_iff`: a text that spells lexemes is the condition that they derive;
* `Misspelt.parse_eq_error`: a misspelt text is no condition.
-/

import SheetExport.Condition.Compiled
import SheetExport.Proofs.Condition.Grammar

namespace SheetExport.Condition

/-! ### Reading lexeme after lexeme -/

section Reading

variable {cs rest : List Char} {c : Char} {lexeme : Lexeme} {lexemes : List Lexeme}

/-- The text `cs` begins with the lexemes, and what remains is `rest`. -/
def Spells (cs : List Char) (lexemes : List Lexeme) (rest : List Char) : Prop :=
  ∀ position, ∃ ts position', lexemesOf ts = lexemes ∧
    tokensFrom position cs = (tokensFrom position' rest).map (ts ++ ·)

theorem tokensFrom_nil (position : Nat) : tokensFrom position [] = .ok [] := by
  rw [tokensFrom]

theorem tokensFrom_blank (position : Nat) (blank : Text.isBlank c = true) :
    tokensFrom position (c :: cs) = tokensFrom (position + 1) cs := by
  rw [tokensFrom, if_pos blank]

theorem tokensFrom_failed {reason : Reason} (position : Nat) (notBlank : Text.isBlank c = false)
    (failed : nextLexeme c cs = .error reason) :
    tokensFrom position (c :: cs) = .error ⟨reason, some position⟩ := by
  rw [tokensFrom, if_neg (by simp [notBlank])]
  split
  · rename_i other same
    cases failed.symm.trans same
    rfl
  · rename_i same
    cases failed.symm.trans same

theorem tokensFrom_lexeme (position : Nat) (notBlank : Text.isBlank c = false)
    (read : nextLexeme c cs = .ok (lexeme, rest)) :
    tokensFrom position (c :: cs) =
      (tokensFrom (position + ((c :: cs).length - rest.length)) rest).map
        (⟨lexeme, position⟩ :: ·) := by
  rw [tokensFrom, if_neg (by simp [notBlank])]
  split
  · rename_i same
    cases read.symm.trans same
  · rename_i same
    cases read.symm.trans same
    split
    · rename_i failed
      rw [failed]
      rfl
    · rename_i tokens
      rw [tokens]
      rfl

theorem Spells.nil (cs : List Char) : Spells cs [] cs := by
  intro position
  refine ⟨[], position, rfl, ?_⟩
  cases tokensFrom position cs <;> rfl

theorem Spells.append {more : List Lexeme} {middle : List Char} (first : Spells cs lexemes middle)
    (second : Spells middle more rest) : Spells cs (lexemes ++ more) rest := by
  intro position
  obtain ⟨ts, position', front, read⟩ := first position
  obtain ⟨us, position'', back, readOn⟩ := second position'
  refine ⟨ts ++ us, position'', by rw [lexemesOf_append, front, back], ?_⟩
  rw [read, readOn]
  cases tokensFrom position'' rest with
  | error mistake => rfl
  | ok vs => exact congrArg _ (List.append_assoc ts us vs).symm

theorem Spells.blank (blank : Text.isBlank c = true) : Spells (c :: cs) [] cs := by
  intro position
  refine ⟨[], position + 1, rfl, ?_⟩
  rw [tokensFrom_blank position blank]
  cases tokensFrom (position + 1) cs <;> rfl

theorem Spells.single (notBlank : Text.isBlank c = false)
    (read : nextLexeme c cs = .ok (lexeme, rest)) : Spells (c :: cs) [lexeme] rest := by
  intro position
  exact ⟨[⟨lexeme, position⟩], _, rfl, tokensFrom_lexeme position notBlank read⟩

theorem Spells.space {middle : List Char} (first : Spells cs lexemes (' ' :: middle))
    {more : List Lexeme} (second : Spells middle more rest) :
    Spells cs (lexemes ++ more) rest := by
  have blank : Spells (' ' :: middle) [] middle := Spells.blank rfl
  exact first.append (blank.append second)

/-- The lexemes that a text spells come first among all its tokens. -/
theorem Spells.prefix_of_tokensFrom {position : Nat} {ts : List Token}
    (spells : Spells cs lexemes rest) (read : tokensFrom position cs = .ok ts) :
    lexemes <+: lexemesOf ts := by
  obtain ⟨us, position', front, same⟩ := spells position
  rw [same] at read
  obtain ⟨vs, _, rfl⟩ := map_eq_ok_iff.mp read
  exact ⟨lexemesOf vs, by rw [lexemesOf_append, front]⟩

end Reading

/-! ### The kinds of lexemes -/

section Kinds

variable {c : Char} {cs rest : List Char}

/-- The characters that a symbol begins with. -/
def symbolStarts : List Char := ['|', '&', '<', '>', '=', '!', '^', '(', ')']

theorem symbol?_of_notMem (notMem : c ∉ symbolStarts) : symbol? (c :: cs) = none := by
  unfold symbol?
  split <;> simp_all [symbolStarts]

/-- A symbol is read where one begins. -/
theorem Spells.symbol {lexeme : Lexeme} (starts : c ∈ symbolStarts)
    (read : symbol? (c :: cs) = some (lexeme, rest)) : Spells (c :: cs) [lexeme] rest := by
  have plain : Text.isBlank c = false ∧ c ≠ '\'' ∧ startsNumber c = false := by
    simp only [symbolStarts, List.mem_cons, List.not_mem_nil, or_false] at starts
    rcases starts with rfl | rfl | rfl | rfl | rfl | rfl | rfl | rfl | rfl <;> decide
  refine Spells.single plain.1 ?_
  rw [nextLexeme, if_neg plain.2.1, if_neg (by simp [plain.2.2])]
  simp only [read]

/-- A word as the lexeme of it is written. -/
def isPlainWord : List Char → Bool
  | [] => false
  | c :: cs =>
    !Text.isBlank c && c ≠ '\'' && !startsNumber c && c ∉ symbolStarts &&
      (c :: cs).all Text.isWordChar && Text.lowerWord (c :: cs) = c :: cs

/-- No word goes on in `rest`. -/
def WordEnds (rest : List Char) : Prop := ∀ c ∈ rest.head?, Text.isWordChar c = false

theorem takeWhile_append_of_ends {p : Char → Bool} (all : ∀ c ∈ cs, p c = true)
    (ends : ∀ c ∈ rest.head?, p c = false) : (cs ++ rest).takeWhile p = cs := by
  rw [List.takeWhile_append_of_pos all]
  cases rest with
  | nil => simp
  | cons c rest => simp [ends c rfl]

theorem dropWhile_append_of_ends {p : Char → Bool} (all : ∀ c ∈ cs, p c = true)
    (ends : ∀ c ∈ rest.head?, p c = false) : (cs ++ rest).dropWhile p = rest := by
  rw [List.dropWhile_append_of_pos all]
  cases rest with
  | nil => simp
  | cons c rest => simp [ends c rfl]

/-- A plain word is read up to where no word goes on. -/
theorem Spells.word {w : List Char} (plain : isPlainWord w = true) (ends : WordEnds rest) :
    Spells (w ++ rest) [.word w] rest := by
  cases w with
  | nil => cases plain
  | cons c cs =>
    simp only [isPlainWord, Bool.and_eq_true, Bool.not_eq_true', decide_eq_true_eq,
      List.all_eq_true] at plain
    obtain ⟨⟨⟨⟨⟨notBlank, notQuote⟩, notNumber⟩, notSymbol⟩, wordChars⟩, lower⟩ := plain
    have tail : ∀ d ∈ cs, Text.isWordChar d = true :=
      fun d member => wordChars d (List.mem_cons_of_mem _ member)
    rw [List.cons_append]
    refine Spells.single notBlank ?_
    rw [nextLexeme, if_neg notQuote, if_neg (by simp [notNumber]), symbol?_of_notMem notSymbol]
    simp only [wordChars c List.mem_cons_self, if_true, takeWhile_append_of_ends tail ends,
      dropWhile_append_of_ends tail ends, lower]

/-- A numeral is read as far as it is scanned. -/
theorem Spells.number {numeral : List Char} (notBlank : Text.isBlank c = false)
    (notQuote : c ≠ '\'') (starts : startsNumber c = true)
    (scanned : scanNumber (c :: cs) = some (numeral, rest)) :
    Spells (c :: cs) [.number numeral] rest := by
  refine Spells.single notBlank ?_
  rw [nextLexeme, if_neg notQuote, if_pos starts]
  simp only [scanned]

/-- A quoted text without quotes in it is read up to the closing quote. -/
theorem Spells.quoted {text : List Char} (noQuote : '\'' ∉ text) :
    Spells ('\'' :: text ++ '\'' :: rest) [.quoted text] rest := by
  have inside : ∀ d ∈ text, decide (d ≠ '\'') = true := by
    intro d member
    simp only [decide_eq_true_eq]
    rintro rfl
    exact noQuote member
  have ends : ∀ d ∈ ('\'' :: rest).head?, decide (d ≠ '\'') = false := by simp
  rw [List.cons_append]
  refine Spells.single (by rfl) ?_
  rw [nextLexeme, if_pos rfl, dropWhile_append_of_ends inside ends,
    takeWhile_append_of_ends inside ends]

end Kinds

/-! ### Texts that are conditions, and texts that are none -/

section Whole

variable {expression : String} {lexemes : List Lexeme} {rest : List Char}

/-- A text that spells lexemes to its end has them as its tokens. -/
theorem Spells.tokenize (spells : Spells expression.toList lexemes []) :
    ∃ lexed, tokenize expression = .ok lexed ∧ lexemesOf lexed.tokens = lexemes := by
  obtain ⟨ts, position, front, read⟩ := spells 0
  rw [tokensFrom_nil] at read
  refine ⟨⟨ts, expression.length⟩, ?_, front⟩
  rw [Condition.tokenize, read]
  simp [Except.map]

/-- An expression that has tokens and is not blank is the condition that they derive. -/
theorem parse_eq_ok_iff_of_tokenize {lexed : Lexed} (tokens : tokenize expression = .ok lexed)
    (notBlank : Text.isAllBlank expression.toList = false) {condition : Condition} :
    Condition.parse expression = .ok condition ↔
      condition.source = expression ∧
        Derives (.joined .or) (lexemesOf lexed.tokens) condition.root := by
  rw [← parse_eq_ok_iff_derives, Condition.parse, if_neg (by simp [notBlank]), tokens]
  obtain ⟨source, root⟩ := condition
  cases parsed : lexed.parse with
  | error mistake => simp only [parsed, reduceCtorEq, and_false]
  | ok root' =>
    simp only [parsed, Except.ok.injEq, Condition.mk.injEq, eq_comm]

/-- **A text that spells lexemes is the condition that they derive.** -/
theorem Spells.parse_eq_ok_iff (spells : Spells expression.toList lexemes [])
    (notBlank : Text.isAllBlank expression.toList = false) {condition : Condition} :
    Condition.parse expression = .ok condition ↔
      condition.source = expression ∧ Derives (.joined .or) lexemes condition.root := by
  obtain ⟨lexed, tokens, front⟩ := spells.tokenize
  rw [← front]
  exact parse_eq_ok_iff_of_tokenize tokens notBlank

/-- The words that conditions are made of. -/
def conditionWords : List (List Char) :=
  ["value".toList, "between".toList, "and".toList, "or".toList] ++
    TextMatch.all.map (·.keyword.toList) ++ Property.all.map (·.keyword.toList)

theorem TestPhrase.word_mem {test : Test} {w : List Char} (phrase : TestPhrase lexemes test)
    (member : Lexeme.word w ∈ lexemes) : w ∈ conditionWords := by
  cases phrase with
  | compare comparator numeral =>
    simp only [List.mem_cons, List.not_mem_nil, Lexeme.word.injEq, reduceCtorEq, or_false] at member
    subst member
    decide
  | between lower upper =>
    simp only [List.mem_cons, List.not_mem_nil, Lexeme.word.injEq, reduceCtorEq, or_false,
      false_or] at member
    rcases member with rfl | rfl | rfl <;> decide
  | matchText how text =>
    simp only [List.mem_cons, List.not_mem_nil, Lexeme.word.injEq, reduceCtorEq, or_false] at member
    rcases member with rfl | rfl
    · decide
    · cases how <;> decide
  | has property =>
    simp only [List.mem_cons, List.not_mem_nil, Lexeme.word.injEq, or_false] at member
    rcases member with rfl | rfl
    · decide
    · cases property <;> decide

theorem Level.word_mem {level : Level} {w : List Char}
    (member : Lexeme.word w ∈ level.operators) : w ∈ conditionWords := by
  cases level <;> simp only [Level.operators, List.mem_cons, List.not_mem_nil, Lexeme.word.injEq,
    reduceCtorEq, or_false, false_or] at member <;> subst member <;> decide

/-- A condition has no other words. -/
theorem Derives.word_mem {phrase : Phrase} {tree : Tree} {w : List Char}
    (derives : Derives phrase lexemes tree) (member : Lexeme.word w ∈ lexemes) :
    w ∈ conditionWords := by
  induction derives with
  | joined level further head operators operands inHead inOperands =>
    rcases List.mem_append.mp member with inFirst | inFurther
    · exact inHead inFirst
    · obtain ⟨f, isFurther, written⟩ := List.mem_flatMap.mp inFurther
      rcases List.mem_cons.mp written with same | inOperand
      · have operator := operators f isFurther
        rw [← same] at operator
        exact Level.word_mem operator
      · exact inOperands f isFurther inOperand
  | negation operand ih =>
    rcases List.mem_cons.mp member with same | inside
    · cases same
    · exact ih inside
  | parentheses enclosed ih =>
    rcases List.mem_append.mp member with front | closing
    · rcases List.mem_cons.mp front with same | inside
      · cases same
      · exact ih inside
    · cases List.mem_singleton.mp closing
  | test phrase => exact phrase.word_mem member

/-- Reading arrives at a character that begins no lexeme, or passes a word that no condition
has. -/
def Misspelt (cs : List Char) : Prop :=
  ∃ front rest, Spells cs front rest ∧
    ((∃ w, Lexeme.word w ∈ front ∧ w ∉ conditionWords) ∨
      ∃ c more reason, rest = c :: more ∧ Text.isBlank c = false ∧
        nextLexeme c more = .error reason)

theorem Misspelt.after {cs middle : List Char} (first : Spells cs lexemes middle)
    (misspelt : Misspelt middle) : Misspelt cs := by
  obtain ⟨front, rest, spells, wrong⟩ := misspelt
  refine ⟨lexemes ++ front, rest, first.append spells, wrong.imp_left ?_⟩
  rintro ⟨w, member, unknown⟩
  exact ⟨w, List.mem_append_right _ member, unknown⟩

/-- A word that no condition has. -/
theorem Misspelt.word {w : List Char} (plain : isPlainWord w = true) (ends : WordEnds rest)
    (unknown : w ∉ conditionWords) : Misspelt (w ++ rest) :=
  ⟨_, rest, Spells.word plain ends, Or.inl ⟨w, List.mem_singleton_self _, unknown⟩⟩

/-- **A misspelt text is no condition.** -/
theorem Misspelt.parse_eq_error (misspelt : Misspelt expression.toList) :
    ∃ e, Condition.parse expression = .error e := by
  rw [Condition.parse]
  split
  · exact ⟨_, rfl⟩
  · rw [tokenize]
    split
    · exact ⟨_, rfl⟩
    · rename_i lexed read
      split at read
      · rename_i ts tokens
        cases read
        obtain ⟨front, rest, spells, ⟨w, member, unknown⟩ | wrong⟩ := misspelt
        · have inTokens := (spells.prefix_of_tokensFrom tokens).subset member
          split
          · exact ⟨_, rfl⟩
          · rename_i root parsed
            have derives := parse_eq_ok_iff_derives.mp parsed
            exact absurd (derives.word_mem inTokens) unknown
        · obtain ⟨c, more, reason, rfl, notBlank, failed⟩ := wrong
          obtain ⟨us, position, _, same⟩ := spells 0
          rw [tokensFrom_failed position notBlank failed, tokens] at same
          cases same
      · cases read

end Whole

end SheetExport.Condition
