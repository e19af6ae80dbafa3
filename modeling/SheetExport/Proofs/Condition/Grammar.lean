/-
**The grammar of conditions, and the parser as its decision procedure.**

`Derives` is the written grammar as a relation between lexemes and trees. It mentions no position
and no parsing function.

* a joined phrase of a level is a first operand and further ones, each behind an operator of the
  level, and its tree joins them from left to right;
* an operand of the tightest level is a negation, a joined phrase of the loosest level in
  parentheses, or a test (`TestPhrase`); a `between` clause owns the word `and` inside it.

Main statements:

* `ReadOff.of_parsePhrase`: what a parsing function reads off the front of a list is a phrase of
  its kind;
* `parsePhrase_append`: a phrase in front of tokens that cannot continue it is read off whole;
* `parse_iff_derives`: the condition of a list of tokens is the one tree they derive.
-/

import Mathlib.Logic.ExistsUnique
import SheetExport.Condition.Parser
import SheetExport.Proofs.Outcome

namespace SheetExport.Condition

/-! ### The grammar -/

/-- The phrases of the grammar: operands joined at a level, or one operand of the tightest. -/
inductive Phrase
  | joined (level : Level)
  | unary

/-- The lexemes that join two operands of a level. -/
def Level.operators : Level → List Lexeme
  | or => [.connective .or, .word "or".toList]
  | xor => [.connective .xor]
  | and => [.connective .and, .word "and".toList]

/-- The phrase on either side of an operator of a level. -/
def Level.operand : Level → Phrase
  | or => .joined .xor
  | xor => .joined .and
  | and => .unary

/-- The lexemes of a test. -/
inductive TestPhrase : List Lexeme → Test → Prop
  | compare (comparator : Comparator) (numeral : List Char) :
      TestPhrase [.word "value".toList, .comparator comparator, .number numeral]
        (.compare comparator (some (numeralValue numeral 0)))
  | between (lower upper : List Char) :
      TestPhrase [.word "value".toList, .word "between".toList, .number lower,
          .word "and".toList, .number upper]
        (.between (some (numeralValue lower 0)) (some (numeralValue upper 0)))
  | matchText (how : TextMatch) (text : List Char) :
      TestPhrase [.word "value".toList, .word how.keyword.toList, .quoted text]
        (.matchText how (some (String.ofList text)))
  | has (property : Property) :
      TestPhrase [.word "value".toList, .word property.keyword.toList] (.has property)

/-- A further operand of a joined phrase, with the operator before it. -/
structure Further where
  operator : Lexeme
  lexemes : List Lexeme
  tree : Tree

/-- The operator and the operand as they are written. -/
def Further.written (f : Further) : List Lexeme := f.operator :: f.lexemes

/-- The lexemes of a phrase, and the tree that they write. -/
inductive Derives : Phrase → List Lexeme → Tree → Prop
  | joined (level : Level) {lexemes : List Lexeme} {first : Tree} (further : List Further)
      (head : Derives level.operand lexemes first)
      (operators : ∀ f ∈ further, f.operator ∈ level.operators)
      (operands : ∀ f ∈ further, Derives level.operand f.lexemes f.tree) :
      Derives (.joined level) (lexemes ++ further.flatMap Further.written)
        (further.foldl (fun left f => .join level.connective left f.tree) first)
  | negation {lexemes : List Lexeme} {tree : Tree} (operand : Derives .unary lexemes tree) :
      Derives .unary (.connective .not :: lexemes) (.negate tree)
  | parentheses {lexemes : List Lexeme} {tree : Tree}
      (enclosed : Derives (.joined .or) lexemes tree) :
      Derives .unary (.leftParen :: lexemes ++ [.rightParen]) tree
  | test {lexemes : List Lexeme} {test : Test} (phrase : TestPhrase lexemes test) :
      Derives .unary lexemes (.test test)

/-- An operand alone is a joined phrase. -/
theorem Derives.single {level : Level} {lexemes : List Lexeme} {tree : Tree}
    (head : Derives level.operand lexemes tree) : Derives (.joined level) lexemes tree := by
  have alone := Derives.joined level [] head (by simp) (by simp)
  simpa using alone

/-- A joined phrase goes on with an operator and an operand; the new join is the outermost. -/
theorem Derives.join {level : Level} {lexemes operand : List Lexeme} {left right : Tree}
    {operator : Lexeme} (phrase : Derives (.joined level) lexemes left)
    (joins : operator ∈ level.operators) (next : Derives level.operand operand right) :
    Derives (.joined level) (lexemes ++ operator :: operand)
      (.join level.connective left right) := by
  cases phrase with
  | joined _ further head operators operands =>
    have longer := Derives.joined level (further ++ [⟨operator, operand, right⟩]) head
      (by
        intro f member
        rcases List.mem_append.mp member with before | last
        · exact operators f before
        · cases List.mem_singleton.mp last
          exact joins)
      (by
        intro f member
        rcases List.mem_append.mp member with before | last
        · exact operands f before
        · cases List.mem_singleton.mp last
          exact next)
    simpa [List.flatMap_append, Further.written] using longer

/-! ### Words, operators and levels -/

/-- The lexemes of tokens. -/
def lexemesOf (ts : List Token) : List Lexeme := ts.map Token.lexeme

@[simp] theorem lexemesOf_nil : lexemesOf [] = [] := rfl

@[simp] theorem lexemesOf_cons (t : Token) (ts : List Token) :
    lexemesOf (t :: ts) = t.lexeme :: lexemesOf ts := rfl

@[simp] theorem lexemesOf_append (ts us : List Token) :
    lexemesOf (ts ++ us) = lexemesOf ts ++ lexemesOf us := List.map_append

/-- Tokens whose lexemes fall into two parts fall into two parts themselves. -/
theorem exists_of_lexemesOf_append {ts : List Token} {front back : List Lexeme}
    (same : lexemesOf ts = front ++ back) :
    ∃ us vs, ts = us ++ vs ∧ lexemesOf us = front ∧ lexemesOf vs = back :=
  List.map_eq_append_iff.mp same

/-- Tokens whose lexemes have a first one have a first one themselves. -/
theorem exists_of_lexemesOf_cons {ts : List Token} {first : Lexeme} {back : List Lexeme}
    (same : lexemesOf ts = first :: back) :
    ∃ position us, ts = ⟨first, position⟩ :: us ∧ lexemesOf us = back := by
  obtain ⟨⟨_, position⟩, us, rfl, rfl, after⟩ := List.map_eq_cons_iff.mp same
  exact ⟨position, us, rfl, after⟩

theorem Level.joins_iff (level : Level) (lexeme : Lexeme) :
    level.joins lexeme = true ↔ lexeme ∈ level.operators := by
  cases lexeme with
  | connective c =>
    have same : level.joins (.connective c) = true ↔ c = level.connective := decide_eq_true_iff
    rw [same]
    cases level <;> simp [Level.operators, Level.connective]
  | word w => cases level <;> simp [Level.joins, Level.operators, Level.word?, eq_comm (a := w)]
  | _ => cases level <;> simp [Level.joins, Level.operators]

/-- An operator joins operands of its own level only. -/
theorem Level.joins_of_mem {level other : Level} {lexeme : Lexeme}
    (member : lexeme ∈ level.operators) : other.joins lexeme = true ↔ other = level := by
  constructor
  · intro joins
    have shared := (Level.joins_iff other lexeme).mp joins
    cases level <;> cases other <;> simp_all [Level.operators] <;> rcases member with rfl | rfl <;>
      simp_all
  · rintro rfl
    exact (Level.joins_iff other lexeme).mpr member

/-- The word for a keyword. -/
def Keyword.word : Keyword → List Char
  | between => "between".toList
  | matchText how => how.keyword.toList
  | has property => property.keyword.toList

theorem Keyword.ofWord?_word (keyword : Keyword) :
    Keyword.ofWord? keyword.word = some keyword := by
  cases keyword with
  | between => rfl
  | matchText how => cases how <;> rfl
  | has property => cases property <;> rfl

theorem Keyword.word_of_ofWord? {w : List Char} {keyword : Keyword}
    (found : Keyword.ofWord? w = some keyword) : w = keyword.word := by
  unfold Keyword.ofWord? at found
  simp only at found
  split at found
  · rename_i same
    cases found
    exact (String.toList_ofList ▸ congrArg String.toList same :)
  · split at found
    · rename_i how same
      cases found
      have keyword := List.find?_some same
      simp only [decide_eq_true_eq] at keyword
      simp [Keyword.word, keyword]
    · obtain ⟨property, same, rfl⟩ := Option.map_eq_some_iff.mp found
      have keyword := List.find?_some same
      simp only [decide_eq_true_eq] at keyword
      simp [Keyword.word, keyword]

/-! ### What is read off the front of a list is a phrase -/

section Sound

variable {finish : Nat}

/-- The tokens before `rest` are a phrase of a tree. -/
def ReadOff (phrase : Phrase) (ts : List Token) (tree : Tree) (rest : List Token) : Prop :=
  ∃ us, ts = us ++ rest ∧ Derives phrase (lexemesOf us) tree

theorem number_of_parseOperandNumber {comparator : Comparator} {ts : List Token}
    {x : Front Float ts} (read : parseOperandNumber finish comparator ts = .ok x) :
    ∃ numeral position, ts = ⟨.number numeral, position⟩ :: x.rest ∧
      x.value = numeralValue numeral 0 := by
  unfold parseOperandNumber at read
  split at read
  · cases read
  · cases read
    exact ⟨_, _, rfl, rfl⟩
  · cases read

theorem number_of_parseBound {part : BetweenPart} {ts : List Token} {x : Front Float ts}
    (read : parseBound finish part ts = .ok x) :
    ∃ numeral position, ts = ⟨.number numeral, position⟩ :: x.rest ∧
      x.value = numeralValue numeral 0 := by
  unfold parseBound at read
  split at read
  · cases read
    exact ⟨_, _, rfl, rfl⟩
  · cases read

theorem word_of_parseConjunction {ts : List Token} {x : Front Unit ts}
    (read : parseConjunction finish ts = .ok x) :
    ∃ position, ts = ⟨.word "and".toList, position⟩ :: x.rest := by
  unfold parseConjunction at read
  split at read
  · split at read
    · rename_i same
      cases read
      exact ⟨_, by rw [same]⟩
    · cases read
  · cases read

theorem quoted_of_parseText {how : TextMatch} {ts : List Token} {x : Front String ts}
    (read : parseText finish how ts = .ok x) :
    ∃ text position, ts = ⟨.quoted text, position⟩ :: x.rest ∧ x.value = String.ofList text := by
  unfold parseText at read
  split at read
  · cases read
    exact ⟨_, _, rfl, rfl⟩
  · cases read
  · cases read
  · cases read

theorem bounds_of_parseBetween {ts : List Token} {x : Front Test ts}
    (read : parseBetween finish ts = .ok x) :
    ∃ lower upper us, ts = us ++ x.rest ∧
      lexemesOf us = [.number lower, .word "and".toList, .number upper] ∧
      x.value = .between (some (numeralValue lower 0)) (some (numeralValue upper 0)) := by
  unfold parseBetween at read
  split at read
  · cases read
  · rename_i first readFirst
    split at read
    · cases read
    · rename_i conjunction readConjunction
      split at read
      · cases read
      · rename_i second readSecond
        cases read
        obtain ⟨lower, p, front, lowerValue⟩ := number_of_parseBound readFirst
        obtain ⟨q, middle⟩ := word_of_parseConjunction readConjunction
        obtain ⟨upper, r, back, upperValue⟩ := number_of_parseBound readSecond
        refine ⟨lower, upper,
          [⟨.number lower, p⟩, ⟨.word "and".toList, q⟩, ⟨.number upper, r⟩], ?_, rfl, ?_⟩
        · exact front.trans (congrArg _ (middle.trans (congrArg _ back)))
        · rw [lowerValue, upperValue]

/-- What stands after the word `value` in a test. -/
theorem exists_of_parseComparison {ts : List Token} {x : Front Test ts}
    (read : parseComparison finish ts = .ok x) :
    ∃ us, ts = us ++ x.rest ∧ TestPhrase (.word "value".toList :: lexemesOf us) x.value := by
  unfold parseComparison at read
  split at read
  · cases read
  · rename_i comparator position rest
    obtain ⟨number, readNumber, rfl⟩ := map_eq_ok_iff.mp read
    obtain ⟨numeral, position', front, value⟩ := number_of_parseOperandNumber readNumber
    refine ⟨[⟨.comparator comparator, position⟩, ⟨.number numeral, position'⟩],
      congrArg _ front, ?_⟩
    show TestPhrase _ (.compare comparator (some number.value))
    rw [value]
    exact .compare comparator numeral
  · rename_i w position rest
    unfold parseKeyword at read
    split at read
    · cases read
    · rename_i found
      obtain ⟨test, readTest, rfl⟩ := map_eq_ok_iff.mp read
      obtain ⟨lower, upper, us, front, lexemes, value⟩ := bounds_of_parseBetween readTest
      refine ⟨⟨.word w, position⟩ :: us, congrArg _ front, ?_⟩
      show TestPhrase _ test.value
      rw [value, lexemesOf_cons, lexemes, Keyword.word_of_ofWord? found]
      exact .between lower upper
    · rename_i how found
      obtain ⟨text, readText, rfl⟩ := map_eq_ok_iff.mp read
      obtain ⟨quoted, position', front, value⟩ := quoted_of_parseText readText
      refine ⟨[⟨.word w, position⟩, ⟨.quoted quoted, position'⟩], congrArg _ front, ?_⟩
      show TestPhrase _ (.matchText how (some text.value))
      rw [value, Keyword.word_of_ofWord? found]
      exact .matchText how quoted
    · rename_i property found
      cases read
      refine ⟨[⟨.word w, position⟩], rfl, ?_⟩
      rw [Keyword.word_of_ofWord? found]
      exact .has property
  · cases read

/-- **A test that was read is a test of the grammar.** -/
theorem exists_of_parseTest {ts : List Token} {x : Front Test ts}
    (read : parseTest finish ts = .ok x) :
    ∃ us, ts = us ++ x.rest ∧ TestPhrase (lexemesOf us) x.value := by
  unfold parseTest at read
  split at read
  · cases read
  · rename_i t rest
    split at read
    · rename_i isValue
      obtain ⟨test, readTest, rfl⟩ := map_eq_ok_iff.mp read
      obtain ⟨us, front, phrase⟩ := exists_of_parseComparison readTest
      refine ⟨t :: us, congrArg _ front, ?_⟩
      rw [lexemesOf_cons, isValue]
      exact phrase
    · cases read

/-- The parsing function of a phrase. -/
def parsePhrase (finish : Nat) : Phrase → (ts : List Token) → Parsed Tree ts
  | .joined level, ts => parseLevel finish level ts
  | .unary, ts => parseUnary finish ts

theorem Level.operand_of_some {level tighter : Level} (below : level.tighter? = some tighter) :
    level.operand = .joined tighter := by
  cases level <;> cases below <;> rfl

theorem Level.operand_of_none {level : Level} (below : level.tighter? = none) :
    level.operand = .unary := by
  cases level <;> first | rfl | cases below

theorem parseOperand_eq (level : Level) (ts : List Token) :
    parseOperand finish level ts = parsePhrase finish level.operand ts := by
  rw [parseOperand]
  cases level <;> rfl

section Joined

variable {level : Level} {ts rest : List Token} {soFar : Front Tree ts} {t : Token}

theorem parseJoined_nil (atEnd : soFar.rest = []) :
    parseJoined finish level soFar = .ok soFar := by
  rw [parseJoined]
  split
  · rfl
  · simp_all

theorem parseJoined_stop (follows : soFar.rest = t :: rest) (stop : ¬ level.joins t.lexeme) :
    parseJoined finish level soFar = .ok soFar := by
  rw [parseJoined]
  split
  · rfl
  · rename_i other _ same
    rw [follows] at same
    cases same
    rw [if_neg stop]

theorem parseJoined_failed {mistake : Mistake} (follows : soFar.rest = t :: rest)
    (joins : level.joins t.lexeme) (failed : parseOperand finish level rest = .error mistake) :
    parseJoined finish level soFar = .error mistake := by
  rw [parseJoined]
  split
  · simp_all
  · rename_i other _ same
    rw [follows] at same
    cases same
    rw [if_pos joins, failed]

/-- The front that an operator and an operand extend. -/
def Front.joinedBy (soFar : Front Tree ts) (level : Level) (next : Front Tree rest)
    (follows : soFar.rest = t :: rest) : Front Tree ts :=
  ⟨.join level.connective soFar.value next.value, next.rest, by
    have before := soFar.shorter
    have after := next.shorter
    rw [follows, List.length_cons] at before
    omega⟩

theorem parseJoined_step {next : Front Tree rest} (follows : soFar.rest = t :: rest)
    (joins : level.joins t.lexeme) (read : parseOperand finish level rest = .ok next) :
    parseJoined finish level soFar =
      parseJoined finish level (soFar.joinedBy level next follows) := by
  rw [parseJoined]
  split
  · simp_all
  · rename_i other _ same
    rw [follows] at same
    cases same
    rw [if_pos joins, read]
    rfl

end Joined

section Unary

variable {inner : List Token} (opened : Nat)

/-- The first token does not close a parenthesis. -/
def NotClosed (inner : List Token) : Prop :=
  ∀ closed tail, inner ≠ ⟨.rightParen, closed⟩ :: tail

theorem parseUnary_open_failed {mistake : Mistake} (notClosed : NotClosed inner)
    (failed : parseLevel finish .or inner = .error mistake) :
    parseUnary finish (⟨.leftParen, opened⟩ :: inner) = .error mistake := by
  rw [parseUnary, failed]
  exact notClosed

theorem parseUnary_open_closed {enclosed : Front Tree inner} {closed : Nat} {rest : List Token}
    (notClosed : NotClosed inner) (read : parseLevel finish .or inner = .ok enclosed)
    (closes : enclosed.rest = ⟨.rightParen, closed⟩ :: rest) :
    ∃ shorter, parseUnary finish (⟨.leftParen, opened⟩ :: inner) =
      .ok ⟨enclosed.value, rest, shorter⟩ := by
  obtain ⟨tree, _, shorter⟩ := enclosed
  subst closes
  rw [parseUnary, read]
  · exact ⟨_, rfl⟩
  · exact notClosed

theorem parseUnary_open_unclosed {enclosed : Front Tree inner} (notClosed : NotClosed inner)
    (read : parseLevel finish .or inner = .ok enclosed) (unclosed : NotClosed enclosed.rest) :
    parseUnary finish (⟨.leftParen, opened⟩ :: inner) =
      .error ⟨.missingClose, some opened⟩ := by
  rw [parseUnary, read]
  · split
    · rename_i same
      cases same
    · rename_i same
      cases same
      exact absurd rfl (unclosed _ _)
    · rfl
  · exact notClosed

/-- Tokens that begin neither a negation nor parentheses are read as a test. -/
theorem parseUnary_test {ts : List Token}
    (notNegated : ∀ position rest, ts ≠ ⟨.connective .not, position⟩ :: rest)
    (notOpened : ∀ opened rest, ts ≠ ⟨.leftParen, opened⟩ :: rest) :
    parseUnary finish ts = (parseTest finish ts).map (·.map Tree.test) := by
  rw [parseUnary]
  · exact notNegated
  · exact notOpened

end Unary

/-- Joined phrases that are read on from `soFar` extend every phrase that ends there. -/
def ReadOn (level : Level) {ts : List Token} (soFar x : Front Tree ts) : Prop :=
  ∃ us, soFar.rest = us ++ x.rest ∧
    ∀ lexemes, Derives (.joined level) lexemes soFar.value →
      Derives (.joined level) (lexemes ++ lexemesOf us) x.value

/-- All four parsing functions read phrases, by one induction along their calls. -/
theorem sound_all :
    (∀ level ts x, parseLevel finish level ts = .ok x →
      ReadOff (.joined level) ts x.value x.rest) ∧
    (∀ level ts (soFar x : Front Tree ts), parseJoined finish level soFar = .ok x →
      ReadOn level soFar x) ∧
    (∀ level ts x, parseOperand finish level ts = .ok x →
      ReadOff level.operand ts x.value x.rest) ∧
    ∀ ts x, parseUnary finish ts = .ok x → ReadOff .unary ts x.value x.rest := by
  apply parseLevel.mutual_induct finish
    (fun level ts => ∀ x, parseLevel finish level ts = .ok x →
      ReadOff (.joined level) ts x.value x.rest)
    (fun level ts soFar => ∀ x, parseJoined finish level soFar = .ok x → ReadOn level soFar x)
    (fun level ts => ∀ x, parseOperand finish level ts = .ok x →
      ReadOff level.operand ts x.value x.rest)
    (fun ts => ∀ x, parseUnary finish ts = .ok x → ReadOff .unary ts x.value x.rest)
  -- A level without a first operand.
  · intro level ts mistake failed _ x read
    rw [parseLevel, failed] at read
    cases read
  -- A level after its first operand.
  · intro level ts first readFirst operand joined x read
    rw [parseLevel, readFirst] at read
    obtain ⟨us, front, head⟩ := operand first readFirst
    obtain ⟨vs, middle, extend⟩ := joined x read
    refine ⟨us ++ vs, ?_, ?_⟩
    · rw [List.append_assoc]
      exact front.trans (congrArg _ middle)
    · rw [lexemesOf_append]
      exact extend _ head.single
  -- The joined operands end with the text.
  · intro level ts soFar atEnd x read
    rw [parseJoined_nil atEnd] at read
    cases read
    exact ⟨[], rfl, fun lexemes phrase => by simpa using phrase⟩
  -- An operator without an operand behind it.
  · intro level ts soFar t rest follows joins mistake failed _ x read
    rw [parseJoined_failed follows joins failed] at read
    cases read
  -- An operator with its operand.
  · intro level ts soFar t rest follows joins next readNext operand joined x read
    rw [parseJoined_step follows joins readNext] at read
    obtain ⟨us, front, phrase⟩ := operand next readNext
    obtain ⟨vs, middle, extend⟩ := joined x read
    refine ⟨t :: us ++ vs, ?_, fun lexemes before => ?_⟩
    · rw [follows, List.cons_append, List.cons_append, List.append_assoc]
      exact congrArg _ (front.trans (congrArg _ middle))
    · have after := extend _ (before.join ((level.joins_iff _).mp joins) phrase)
      simpa using after
  -- The joined operands end before a token that does not join.
  · intro level ts soFar t rest follows stop x read
    rw [parseJoined_stop follows stop] at read
    cases read
    exact ⟨[], rfl, fun lexemes phrase => by simpa using phrase⟩
  -- An operand of a level above the tightest.
  · intro level ts tighter below joined x read
    rw [parseOperand_eq, Level.operand_of_some below] at read
    rw [Level.operand_of_some below]
    exact joined x read
  -- An operand of the tightest level.
  · intro level ts below unary x read
    rw [parseOperand_eq, Level.operand_of_none below] at read
    rw [Level.operand_of_none below]
    exact unary x read
  -- A negation of what cannot be read.
  · intro position rest mistake failed _ x read
    rw [parseUnary, failed] at read
    cases read
  -- A negation.
  · intro position rest operand readOperand unary x read
    rw [parseUnary, readOperand] at read
    cases read
    obtain ⟨us, front, phrase⟩ := unary operand readOperand
    exact ⟨⟨.connective .not, position⟩ :: us, congrArg _ front, phrase.negation⟩
  -- Parentheses around nothing.
  · intro opened closed tail x read
    rw [parseUnary] at read
    cases read
  -- Parentheses around what cannot be read.
  · intro opened inner notClosed mistake failed _ x read
    rw [parseUnary_open_failed opened notClosed failed] at read
    cases read
  -- Parentheses.
  · intro opened inner notClosed enclosed closed rest shorter readInner joined x read
    obtain ⟨_, outcome⟩ := parseUnary_open_closed opened notClosed readInner rfl
    rw [outcome] at read
    cases read
    obtain ⟨us, front, phrase⟩ := joined _ readInner
    refine ⟨⟨.leftParen, opened⟩ :: us ++ [⟨.rightParen, closed⟩], ?_, ?_⟩
    · show _ :: inner = _
      rw [List.append_assoc, List.cons_append]
      exact congrArg _ front
    · rw [lexemesOf_append]
      exact phrase.parentheses
  -- A parenthesis that is not closed.
  · intro opened inner notClosed enclosed unclosed readInner _ x read
    have notClosing : NotClosed enclosed.rest := by
      intro closed tail same
      obtain ⟨tree, rest, shorter⟩ := enclosed
      subst same
      exact unclosed _ _ _ _ rfl
    rw [parseUnary_open_unclosed opened notClosed readInner notClosing] at read
    cases read
  -- A test.
  · intro other notNegated notOpened x read
    rw [parseUnary_test notNegated notOpened] at read
    obtain ⟨test, readTest, rfl⟩ := map_eq_ok_iff.mp read
    obtain ⟨us, front, phrase⟩ := exists_of_parseTest readTest
    exact ⟨us, front, .test phrase⟩

/-- **What a parsing function reads off is a phrase of its kind.** -/
theorem ReadOff.of_parsePhrase {phrase : Phrase} {ts : List Token} {x : Front Tree ts}
    (read : parsePhrase finish phrase ts = .ok x) : ReadOff phrase ts x.value x.rest := by
  cases phrase with
  | joined level => exact sound_all.1 level ts x read
  | unary => exact sound_all.2.2.2 ts x read

end Sound

/-! ### A phrase in front of what cannot continue it is read off whole -/

section Complete

variable {finish : Nat}

theorem parseTest_value {position : Nat} {ts : List Token} :
    parseTest finish (⟨.word "value".toList, position⟩ :: ts) =
      (parseComparison finish ts).map (·.weaken (Nat.le_succ _)) := by
  rw [parseTest, if_pos rfl]

theorem parseComparison_keyword {keyword : Keyword} {position : Nat} {ts : List Token} :
    parseComparison finish (⟨.word keyword.word, position⟩ :: ts) =
      match keyword with
      | .between => (parseBetween finish ts).map (·.weaken (Nat.le_succ _))
      | .matchText how =>
        (parseText finish how ts).map fun f =>
          (f.map fun text => Test.matchText how (some text)).weaken (Nat.le_succ _)
      | .has property => .ok ⟨.has property, ts, Nat.lt_succ_self _⟩ := by
  rw [parseComparison, parseKeyword]
  simp only [Keyword.ofWord?_word]
  cases keyword <;> rfl

/-- **A test in front of any tokens is read off whole.** -/
theorem parseTest_append (finish : Nat) {us : List Token} {test : Test}
    (phrase : TestPhrase (lexemesOf us) test) (rest : List Token) :
    ∃ x, parseTest finish (us ++ rest) = .ok x ∧ x.value = test ∧ x.rest = rest := by
  generalize same : lexemesOf us = lexemes at phrase
  cases phrase with
  | compare comparator numeral =>
    obtain ⟨p, us₁, rfl, after₁⟩ := exists_of_lexemesOf_cons same
    obtain ⟨q, us₂, rfl, after₂⟩ := exists_of_lexemesOf_cons after₁
    obtain ⟨r, us₃, rfl, after₃⟩ := exists_of_lexemesOf_cons after₂
    cases List.map_eq_nil_iff.mp after₃
    simp only [List.cons_append, parseTest_value]
    exact ⟨_, rfl, rfl, rfl⟩
  | between lower upper =>
    obtain ⟨p, us₁, rfl, after₁⟩ := exists_of_lexemesOf_cons same
    obtain ⟨q, us₂, rfl, after₂⟩ := exists_of_lexemesOf_cons after₁
    obtain ⟨r, us₃, rfl, after₃⟩ := exists_of_lexemesOf_cons after₂
    obtain ⟨p', us₄, rfl, after₄⟩ := exists_of_lexemesOf_cons after₃
    obtain ⟨q', us₅, rfl, after₅⟩ := exists_of_lexemesOf_cons after₄
    cases List.map_eq_nil_iff.mp after₅
    simp only [List.cons_append, parseTest_value]
    have word : "between".toList = Keyword.between.word := rfl
    rw [word, parseComparison_keyword]
    exact ⟨_, rfl, rfl, rfl⟩
  | matchText how text =>
    obtain ⟨p, us₁, rfl, after₁⟩ := exists_of_lexemesOf_cons same
    obtain ⟨q, us₂, rfl, after₂⟩ := exists_of_lexemesOf_cons after₁
    obtain ⟨r, us₃, rfl, after₃⟩ := exists_of_lexemesOf_cons after₂
    cases List.map_eq_nil_iff.mp after₃
    simp only [List.cons_append, parseTest_value]
    have word : how.keyword.toList = (Keyword.matchText how).word := rfl
    rw [word, parseComparison_keyword]
    exact ⟨_, rfl, rfl, rfl⟩
  | has property =>
    obtain ⟨p, us₁, rfl, after₁⟩ := exists_of_lexemesOf_cons same
    obtain ⟨q, us₂, rfl, after₂⟩ := exists_of_lexemesOf_cons after₁
    cases List.map_eq_nil_iff.mp after₂
    simp only [List.cons_append, parseTest_value]
    have word : property.keyword.toList = (Keyword.has property).word := rfl
    rw [word, parseComparison_keyword]
    exact ⟨_, rfl, rfl, rfl⟩

/-- Looser phrases have greater ranks. -/
def Phrase.rank : Phrase → Nat
  | joined level => level.rank
  | unary => 0

theorem Level.rank_operand_lt (level : Level) : level.operand.rank < level.rank := by
  cases level <;> decide

/-- The tokens after a phrase do not continue it. -/
def Stops (phrase : Phrase) (rest : List Token) : Prop :=
  ∀ t ∈ rest.head?, ∀ level : Level, level.rank ≤ phrase.rank → ¬ level.joins t.lexeme

theorem Stops.operand {level : Level} {rest : List Token} (stops : Stops (.joined level) rest) :
    Stops level.operand rest := by
  intro t member other le
  exact stops t member other (Nat.le_trans le (Nat.le_of_lt level.rank_operand_lt))

theorem Stops.unary (rest : List Token) : Stops .unary rest := by
  intro t _ other le
  cases other <;> exact absurd le (by decide)

/-- An operator of a level ends the operand before it. -/
theorem stops_of_operator {level : Level} {operator : Lexeme} (member : operator ∈ level.operators)
    (position : Nat) (rest : List Token) : Stops level.operand (⟨operator, position⟩ :: rest) := by
  intro t head other le joins
  cases Option.mem_some.mp head
  cases (Level.joins_of_mem member).mp joins
  exact absurd level.rank_operand_lt (Nat.not_lt.mpr le)

/-- An operand ends at the operator behind it, or where the whole phrase does. -/
theorem stops_of_further {level : Level} {further : List Further} {us rest : List Token}
    (operators : ∀ f ∈ further, f.operator ∈ level.operators)
    (same : lexemesOf us = further.flatMap Further.written) (stops : Stops (.joined level) rest) :
    Stops level.operand (us ++ rest) := by
  cases further with
  | nil =>
    cases List.map_eq_nil_iff.mp same
    exact stops.operand
  | cons f further =>
    obtain ⟨position, vs, rfl, _⟩ := exists_of_lexemesOf_cons same
    exact stops_of_operator (operators f List.mem_cons_self) position _

/-- A closing parenthesis ends every phrase. -/
theorem stops_of_close (phrase : Phrase) (position : Nat) (rest : List Token) :
    Stops phrase (⟨.rightParen, position⟩ :: rest) := by
  intro t head other _ joins
  cases Option.mem_some.mp head
  cases joins

/-- The end of the text ends every phrase. -/
theorem stops_nil (phrase : Phrase) : Stops phrase [] := by
  intro t head
  cases head

/-- A phrase begins with a lexeme that closes no parenthesis. -/
theorem Derives.exists_head {phrase : Phrase} {lexemes : List Lexeme} {tree : Tree}
    (derives : Derives phrase lexemes tree) :
    ∃ first back, lexemes = first :: back ∧ first ≠ .rightParen := by
  induction derives with
  | joined level further head operators operands begins =>
    obtain ⟨first, back, rfl, notClosing⟩ := begins
    exact ⟨first, _, rfl, notClosing⟩
  | negation operand _ => exact ⟨_, _, rfl, by simp⟩
  | parentheses enclosed _ => exact ⟨_, _, rfl, by simp⟩
  | test phrase => cases phrase <;> exact ⟨_, _, rfl, by simp⟩

/-- What a parsing function reads something off does not begin with a closing parenthesis. -/
theorem notClosed_of_parsePhrase {phrase : Phrase} {ts : List Token} {x : Front Tree ts}
    (read : parsePhrase finish phrase ts = .ok x) : NotClosed ts := by
  obtain ⟨us, front, derives⟩ := ReadOff.of_parsePhrase read
  obtain ⟨first, back, lexemes, notClosing⟩ := derives.exists_head
  obtain ⟨position, vs, rfl, _⟩ := exists_of_lexemesOf_cons lexemes
  rintro closed tail rfl
  rw [List.cons_append, List.cons.injEq] at front
  cases front.1
  exact notClosing rfl

/-- The loop over further operands reads them all and stops behind them. -/
theorem parseJoined_append {level : Level} {rest : List Token} (further : List Further)
    (operators : ∀ f ∈ further, f.operator ∈ level.operators)
    (operands : ∀ f ∈ further, ∀ us vs, lexemesOf us = f.lexemes → Stops level.operand vs →
      ∃ x, parsePhrase finish level.operand (us ++ vs) = .ok x ∧ x.value = f.tree ∧ x.rest = vs)
    (stops : Stops (.joined level) rest) :
    ∀ {ts : List Token} (soFar : Front Tree ts) (us : List Token), soFar.rest = us ++ rest →
      lexemesOf us = further.flatMap Further.written →
      ∃ x, parseJoined finish level soFar = .ok x ∧ x.rest = rest ∧
        x.value = further.foldl (fun left f => .join level.connective left f.tree) soFar.value := by
  induction further with
  | nil =>
    intro ts soFar us follows same
    cases List.map_eq_nil_iff.mp same
    cases rest with
    | nil => exact ⟨soFar, parseJoined_nil follows, follows, rfl⟩
    | cons t rest =>
      exact ⟨soFar, parseJoined_stop follows (stops t rfl level (Nat.le_refl _)), follows, rfl⟩
  | cons f further ih =>
    intro ts soFar us follows same
    obtain ⟨position, vs, rfl, after⟩ := exists_of_lexemesOf_cons same
    obtain ⟨front, back, rfl, frontLexemes, backLexemes⟩ := exists_of_lexemesOf_append after
    have member := operators f List.mem_cons_self
    have ends := stops_of_further (fun g hg => operators g (List.mem_cons_of_mem _ hg)) backLexemes
      stops
    obtain ⟨next, read, value, remaining⟩ :=
      operands f List.mem_cons_self front (back ++ rest) frontLexemes ends
    rw [List.cons_append, List.append_assoc] at follows
    rw [parseJoined_step follows ((level.joins_iff _).mpr member)
      ((parseOperand_eq level _).trans read)]
    obtain ⟨x, joined, stopped, tree⟩ := ih (fun g hg => operators g (List.mem_cons_of_mem _ hg))
      (fun g hg => operands g (List.mem_cons_of_mem _ hg)) (soFar.joinedBy level next follows)
      back remaining backLexemes
    refine ⟨x, joined, stopped, ?_⟩
    rw [tree, List.foldl_cons]
    show List.foldl _ (Tree.join level.connective soFar.value next.value) further = _
    rw [value]

/-- **A phrase in front of tokens that do not continue it is read off whole.** -/
theorem parsePhrase_append (finish : Nat) {phrase : Phrase} {lexemes : List Lexeme} {tree : Tree}
    (derives : Derives phrase lexemes tree) :
    ∀ us rest, lexemesOf us = lexemes → Stops phrase rest →
      ∃ x, parsePhrase finish phrase (us ++ rest) = .ok x ∧ x.value = tree ∧ x.rest = rest := by
  induction derives with
  | joined level further head operators operands readHead readOperands =>
    intro us rest same stops
    obtain ⟨front, back, rfl, frontLexemes, backLexemes⟩ := exists_of_lexemesOf_append same
    have ends := stops_of_further operators backLexemes stops
    obtain ⟨first, read, value, remaining⟩ := readHead front (back ++ rest) frontLexemes ends
    obtain ⟨x, joined, stopped, tree⟩ :=
      parseJoined_append further operators readOperands stops first back remaining backLexemes
    rw [List.append_assoc]
    refine ⟨x, ?_, by rw [tree, value], stopped⟩
    show parseLevel finish level _ = _
    rw [parseLevel, parseOperand_eq, read]
    exact joined
  | negation operand ih =>
    intro us rest same _
    obtain ⟨position, vs, rfl, after⟩ := exists_of_lexemesOf_cons same
    obtain ⟨x, read, rfl, remaining⟩ := ih vs rest after (Stops.unary rest)
    refine ⟨(x.map Tree.negate).weaken (by simp), ?_, rfl, remaining⟩
    show parseUnary finish (⟨.connective .not, position⟩ :: (vs ++ rest)) = _
    rw [parseUnary, show parseUnary finish (vs ++ rest) = .ok x from read]
  | parentheses enclosed ih =>
    intro us rest same _
    obtain ⟨opened, vs, rfl, after⟩ := exists_of_lexemesOf_cons same
    obtain ⟨inner, closing, rfl, innerLexemes, closingLexemes⟩ := exists_of_lexemesOf_append after
    obtain ⟨closed, none, rfl, noneLexemes⟩ := exists_of_lexemesOf_cons closingLexemes
    cases List.map_eq_nil_iff.mp noneLexemes
    obtain ⟨x, read, value, remaining⟩ :=
      ih inner (⟨.rightParen, closed⟩ :: rest) innerLexemes (stops_of_close _ closed rest)
    obtain ⟨shorter, outcome⟩ := parseUnary_open_closed opened
      (notClosed_of_parsePhrase read) read remaining
    rw [List.cons_append, List.append_assoc, List.singleton_append]
    exact ⟨_, outcome, value, rfl⟩
  | test phrase =>
    intro us rest same _
    cases same
    obtain ⟨x, read, value, remaining⟩ := parseTest_append finish phrase rest
    refine ⟨x.map Tree.test, ?_, by rw [← value]; rfl, remaining⟩
    obtain ⟨position, vs, rfl⟩ : ∃ position vs, us = ⟨.word "value".toList, position⟩ :: vs := by
      generalize same : lexemesOf us = lexemes at phrase
      cases phrase <;> obtain ⟨position, vs, rfl, _⟩ := exists_of_lexemesOf_cons same <;>
        exact ⟨position, vs, rfl⟩
    show parseUnary finish _ = _
    rw [parseUnary_test (by simp) (by simp), read]
    rfl

end Complete

/-! ### Whole conditions -/

/-- A list of tokens is parsed just when a joined phrase is read off and nothing remains. -/
theorem parse_eq_ok_iff {lexed : Lexed} {tree : Tree} :
    lexed.parse = .ok tree ↔
      ∃ x, parseLevel lexed.finish .or lexed.tokens = .ok x ∧ x.value = tree ∧ x.rest = [] := by
  unfold Lexed.parse
  constructor
  · intro parsed
    split at parsed
    · cases parsed
    · split at parsed
      · cases parsed
      · rename_i whole read
        split at parsed
        · rename_i nothing
          cases parsed
          exact ⟨whole, read, rfl, nothing⟩
        · cases parsed
        · cases parsed
  · rintro ⟨x, read, rfl, nothing⟩
    split
    · rename_i empty
      exact absurd x.shorter (by simp [empty])
    · simp only [read, nothing]

/-- The tokens of a condition are parsed to a tree just when they derive it. -/
theorem parse_eq_ok_iff_derives {lexed : Lexed} {tree : Tree} :
    lexed.parse = .ok tree ↔ Derives (.joined .or) (lexemesOf lexed.tokens) tree := by
  constructor
  · intro parsed
    obtain ⟨x, read, value, nothing⟩ := parse_eq_ok_iff.mp parsed
    have readOff : ReadOff (.joined .or) lexed.tokens x.value x.rest := sound_all.1 _ _ x read
    rw [value, nothing] at readOff
    obtain ⟨us, front, derives⟩ := readOff
    rwa [front, List.append_nil]
  · intro derives
    have whole := parsePhrase_append lexed.finish derives lexed.tokens [] rfl (stops_nil _)
    rw [List.append_nil] at whole
    exact parse_eq_ok_iff.mpr whole

/-- **The parser decides the grammar.** The tokens of a condition are parsed to a tree just when
they derive it, and what they derive is one tree alone. -/
theorem parse_iff_derives (lexed : Lexed) :
    (∀ tree, lexed.parse = .ok tree ↔ Derives (.joined .or) (lexemesOf lexed.tokens) tree) ∧
      ((∃ tree, Derives (.joined .or) (lexemesOf lexed.tokens) tree) →
        ∃! tree, Derives (.joined .or) (lexemesOf lexed.tokens) tree) := by
  refine ⟨fun tree => parse_eq_ok_iff_derives, ?_⟩
  rintro ⟨tree, derives⟩
  refine ⟨tree, derives, fun other derives' => ?_⟩
  have parsed := parse_eq_ok_iff_derives.mpr derives
  have parsed' := parse_eq_ok_iff_derives.mpr derives'
  exact Except.ok.inj (parsed'.symm.trans parsed)

end SheetExport.Condition
