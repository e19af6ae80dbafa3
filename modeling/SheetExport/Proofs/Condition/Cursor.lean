/-
**The parser of conditions as a machine with a cursor.**

The entries of a text are its tokens and the end behind them. The machine holds an index into their
list; `Tape.current` looks at the entry there, `Tape.advance` passes it unless it is the end, and a
mistake is reported at the entry where it is noticed. The machine could go wrong: look or move
outside the list, take a text for a number or a comparator that is none, or never stop. Each of
these is a fault of its own (`Stop`).

`Follows` relates a part of the machine to what a parsing function says of the tokens from the
cursor on. Its rules take a chain apart into looking, passing, testing and failing.
-/

import SheetExport.Proofs.Condition.Position

namespace SheetExport.Condition

/-! ### The machine -/

/-- The kinds of entries. -/
inductive EntryKind
  | leftParen
  | rightParen
  | connective (c : Connective)
  | comparator
  | number
  | quoted
  | word
  | finish
deriving DecidableEq

/-- The name of a kind. -/
def EntryKind.name : EntryKind → String
  | leftParen => "("
  | rightParen => ")"
  | connective c => c.symbol
  | comparator => "comparator"
  | number => "number"
  | quoted => "string"
  | word => "word"
  | finish => "end"

/-- A token, or the end of a text, as the machine sees it. -/
structure Entry where
  kind : EntryKind
  text : String
  position : Nat

/-- Kind, text and position of an entry. -/
def Entry.shown (entry : Entry) : String × String × Nat :=
  (entry.kind.name, entry.text, entry.position)

/-- The entry is a given word. -/
def Entry.isWord (entry : Entry) (word : String) : Bool :=
  entry.kind = .word && entry.text = word

/-- Why reading may stop short: a mistake in the text, or a fault of the machine. -/
inductive Stop
  | syntaxError (e : SyntaxError)
  /-- The cursor leaves the list of entries. -/
  | outside (index : Nat)
  /-- The text of a number is none. -/
  | noNumber (text : String)
  /-- The text of a comparator is none. -/
  | noComparator (text : String)
  /-- The calls are nested deeper than was allowed. -/
  | exhausted

/-- A part of the machine; the state is the index of the cursor. -/
abbrev Cursor := ExceptT Stop (StateM Nat)

/-- The number that a text is. -/
def readNumber (text : String) : Cursor Float :=
  match Written.float? text.toList with
  | some x => pure x
  | none => throw (.noNumber text)

/-- The comparator that a text is. -/
def readComparator (text : String) : Cursor Comparator :=
  match Comparator.ofSymbol? text with
  | some comparator => pure comparator
  | none => throw (.noComparator text)

/-- The entry joins two operands of a level. -/
def Level.joinsEntry (level : Level) (entry : Entry) : Bool :=
  entry.kind = .connective level.connective ||
    level.word?.any fun w => entry.isWord (String.ofList w)

/-- An expression and its entries. -/
structure Tape where
  expression : String
  entries : List Entry

namespace Tape

variable (tape : Tape) {α : Type}

/-- The entry under the cursor. -/
def current : Cursor Entry := do
  let index ← get
  match tape.entries[index]? with
  | some entry => pure entry
  | none => throw (.outside index)

/-- Moves the cursor to an entry. -/
def moveTo (index : Nat) : Cursor Unit :=
  if index < tape.entries.length then set index else throw (.outside index)

/-- Passes the entry under the cursor, unless it is the end. -/
def advance : Cursor Entry := do
  let entry ← tape.current
  if entry.kind = .finish then pure entry
  else do
    let index ← get
    tape.moveTo (index + 1)
    pure entry

/-- Stops at a mistake noticed at an entry. -/
def failAt (reason : Reason) (entry : Entry) : Cursor α :=
  throw (.syntaxError
    { mistake := ⟨reason, some entry.position⟩, expression := tape.expression })

/-- Stops at a mistake under the cursor. -/
def fail (reason : Reason) : Cursor α := do
  let entry ← tape.current
  tape.failAt reason entry

/-- The number after a comparator. -/
def expectNumber (comparator : Comparator) : Cursor Float := do
  let entry ← tape.current
  if entry.kind = .number then do
    let _ ← tape.advance
    readNumber entry.text
  else if entry.kind = .finish then tape.fail (.missingNumber comparator)
  else tape.fail (.expectedNumber comparator entry.text)

/-- The quoted text after a keyword. -/
def expectText (how : TextMatch) : Cursor String := do
  let entry ← tape.current
  if entry.kind = .quoted then do
    let _ ← tape.advance
    pure entry.text
  else if entry.kind = .word ∨ entry.kind = .number then
    tape.fail (.unquotedText entry.text how)
  else tape.fail (.expectedText how)

/-- One bound of a `between` clause. -/
def bound (part : BetweenPart) : Cursor Float := do
  let entry ← tape.current
  if entry.kind = .number then do
    let passed ← tape.advance
    readNumber passed.text
  else tape.fail (.incompleteBetween part)

/-- The word between the bounds. -/
def conjunction : Cursor Unit := do
  let entry ← tape.current
  if entry.isWord "and" then do
    let _ ← tape.advance
    pure ()
  else tape.fail (.incompleteBetween .conjunction)

/-- The bounds of a `between` clause. -/
def between : Cursor Test := do
  let lower ← tape.bound .lower
  tape.conjunction
  let upper ← tape.bound .upper
  pure (.between (some lower) (some upper))

/-- What stands after a keyword. -/
def afterKeyword : Keyword → Cursor Test
  | .between => tape.between
  | .matchText how => do
    let text ← tape.expectText how
    pure (.matchText how (some text))
  | .has property => pure (.has property)

/-- The keyword under the cursor and what stands after it. -/
def keyword (entry : Entry) : Cursor Test :=
  match Keyword.ofWord? entry.text.toList with
  | none => tape.fail (.unknownKeyword entry.text)
  | some keyword => do
    let _ ← tape.advance
    tape.afterKeyword keyword

/-- What stands after the word `value`. -/
def comparison : Cursor Test := do
  let entry ← tape.current
  if entry.kind = .comparator then do
    let _ ← tape.advance
    let comparator ← readComparator entry.text
    let operand ← tape.expectNumber comparator
    pure (.compare comparator (some operand))
  else if entry.kind = .finish then tape.fail .missingComparator
  else if entry.kind = .word then tape.keyword entry
  else tape.fail (.unknownOperator entry.text)

/-- A test. -/
def test : Cursor Test := do
  let entry ← tape.current
  if entry.kind = .finish then tape.fail .missingOperand
  else if entry.isWord "value" then do
    let _ ← tape.advance
    tape.comparison
  else tape.fail (.expectedValue entry.text)

mutual

/-- A condition at a level. -/
def readLevel (fuel : Nat) (level : Level) : Cursor Tree :=
  match fuel with
  | 0 => throw .exhausted
  | fuel + 1 => do
    let first ← readOperand fuel level
    readJoined fuel level first

/-- The further operands of a level after those read so far. -/
def readJoined (fuel : Nat) (level : Level) (soFar : Tree) : Cursor Tree :=
  match fuel with
  | 0 => throw .exhausted
  | fuel + 1 => do
    let entry ← tape.current
    if level.joinsEntry entry then do
      let _ ← tape.advance
      let next ← readOperand fuel level
      readJoined fuel level (.join level.connective soFar next)
    else pure soFar

/-- An operand of a level. -/
def readOperand (fuel : Nat) (level : Level) : Cursor Tree :=
  match fuel with
  | 0 => throw .exhausted
  | fuel + 1 =>
    match level.tighter? with
    | some tighter => readLevel fuel tighter
    | none => readUnary fuel

/-- A negation, a parenthesised condition, or a test. -/
def readUnary (fuel : Nat) : Cursor Tree :=
  match fuel with
  | 0 => throw .exhausted
  | fuel + 1 => do
    let entry ← tape.current
    if entry.kind = .connective .not then do
      let _ ← tape.advance
      let operand ← readUnary fuel
      pure (.negate operand)
    else if entry.kind = .leftParen then do
      let _ ← tape.advance
      let first ← tape.current
      if first.kind = .rightParen then tape.fail .emptyParentheses
      else do
        let enclosed ← readLevel fuel .or
        let closing ← tape.current
        if closing.kind = .rightParen then do
          let _ ← tape.advance
          pure enclosed
        else tape.failAt .missingClose entry
    else do
      let test ← tape.test
      pure (.test test)

end

/-- The condition that all entries write. -/
def whole (fuel : Nat) : Cursor Condition := do
  let entry ← tape.current
  if entry.kind = .finish then
    throw (.syntaxError
      { mistake := ⟨.emptyExpression, none⟩, expression := tape.expression })
  else do
    let root ← tape.readLevel fuel .or
    let rest ← tape.current
    if rest.kind = .rightParen then tape.fail .unexpectedClose
    else if rest.kind = .finish then pure ⟨tape.expression, root⟩
    else tape.fail (.unexpectedToken rest.text)

end Tape

/-! ### The entries of a text -/

/-- The kind of a lexeme. -/
def Lexeme.entryKind : Lexeme → EntryKind
  | leftParen => .leftParen
  | rightParen => .rightParen
  | connective c => .connective c
  | comparator _ => .comparator
  | number _ => .number
  | quoted _ => .quoted
  | word _ => .word

/-- A token among the entries. -/
def Token.entry (t : Token) : Entry := ⟨t.lexeme.entryKind, t.lexeme.text, t.position⟩

/-- The tokens and the end behind them. -/
def Lexed.items (lexed : Lexed) : List Entry :=
  lexed.tokens.map Token.entry ++ [⟨.finish, "", lexed.finish⟩]

/-- The machine has the entries that the tokenizer shows. -/
theorem Lexed.entries_eq (lexed : Lexed) : lexed.entries = lexed.items.map Entry.shown := by
  have same : ∀ t : Token, t.entry.shown = (t.lexeme.kind, t.lexeme.text, t.position) := by
    rintro ⟨lexeme, position⟩
    cases lexeme <;> rfl
  rw [Lexed.items, List.map_append, List.map_map, Lexed.entries]
  exact congrArg (· ++ _) (List.map_congr_left fun t _ => (same t).symm)

/-- An expression with the entries of its text. -/
def Lexed.tape (lexed : Lexed) (expression : String) : Tape := ⟨expression, lexed.items⟩

/-- The condition that an expression writes, or how the machine stops short of it. -/
def compile (fuel : Nat) (expression : String) : Except Stop Condition :=
  if Text.isAllBlank expression.toList then
    .error (.syntaxError { mistake := ⟨.emptyExpression, none⟩, expression })
  else
    match tokenize expression with
    | .error e => .error (.syntaxError e)
    | .ok lexed => ((lexed.tape expression).whole fuel).run.run 0 |>.1

/-! ### What is under the cursor -/

section Under

variable {finish : Nat} {ts : List Token}

/-- The entry that tokens and the end of the text behind them begin with. -/
def entryOf (finish : Nat) : List Token → Entry
  | [] => ⟨.finish, "", finish⟩
  | t :: _ => t.entry

theorem position_entryOf (finish : Nat) (ts : List Token) :
    (entryOf finish ts).position = startOf finish ts := by
  cases ts <;> rfl

theorem Token.kind_ne_finish (t : Token) : t.entry.kind ≠ .finish := by
  obtain ⟨lexeme, _⟩ := t
  intro same
  cases lexeme <;> cases same

theorem nil_of_kind (same : (entryOf finish ts).kind = .finish) : ts = [] := by
  cases ts with
  | nil => rfl
  | cons t rest => exact absurd same t.kind_ne_finish

/-- The first token is of the kind of the entry. -/
theorem cons_of_kind {kind : EntryKind} (same : (entryOf finish ts).kind = kind)
    (notFinish : kind ≠ .finish) :
    ∃ lexeme position rest, ts = ⟨lexeme, position⟩ :: rest ∧ lexeme.entryKind = kind := by
  cases ts with
  | nil => exact absurd same.symm notFinish
  | cons t rest => exact ⟨t.lexeme, t.position, rest, rfl, same⟩

theorem number_of_kind (same : (entryOf finish ts).kind = .number) :
    ∃ numeral position rest, ts = ⟨.number numeral, position⟩ :: rest := by
  obtain ⟨lexeme, position, rest, rfl, kind⟩ := cons_of_kind same (by decide)
  cases lexeme <;> cases kind
  exact ⟨_, _, _, rfl⟩

theorem word_of_kind (same : (entryOf finish ts).kind = .word) :
    ∃ lower position rest, ts = ⟨.word lower, position⟩ :: rest := by
  obtain ⟨lexeme, position, rest, rfl, kind⟩ := cons_of_kind same (by decide)
  cases lexeme <;> cases kind
  exact ⟨_, _, _, rfl⟩

theorem NotClosed.kind_ne (notClosed : NotClosed ts) (finish : Nat) :
    (entryOf finish ts).kind ≠ .rightParen := by
  intro closing
  obtain ⟨lexeme, position, rest, rfl, kind⟩ := cons_of_kind closing (by decide)
  cases lexeme <;> cases kind
  exact notClosed _ _ rfl

theorem word_of_isWord {w : String} (same : (entryOf finish ts).isWord w = true) :
    ∃ position rest, ts = ⟨.word w.toList, position⟩ :: rest := by
  rw [Entry.isWord, Bool.and_eq_true, decide_eq_true_eq, decide_eq_true_eq] at same
  obtain ⟨lower, position, rest, rfl⟩ := word_of_kind same.1
  have text : String.ofList lower = w := same.2
  exact ⟨position, rest, by rw [← text, String.toList_ofList]⟩

theorem isWord_word (position : Nat) (w : String) :
    (Token.entry ⟨.word w.toList, position⟩).isWord w = true := by
  have text : String.ofList w.toList = w := String.ofList_toList
  simp [Entry.isWord, Token.entry, Lexeme.entryKind, Lexeme.text, text]

end Under

/-! ### Following the parsing functions -/

section Following

variable {lexed : Lexed} {expression : String} {α β : Type} {index : Nat} {t : Token}
  {ts rest : List Token} {a : α} {x : Cursor α} {f : α → Cursor β} {mistake : Mistake}
  {outcome : Except Mistake (α × List Token)} {entry : Entry}

/-- Ahead of a cursor at the index are the tokens `ts` and the end. -/
def Lexed.Ahead (lexed : Lexed) (index : Nat) (ts : List Token) : Prop :=
  ∃ passed, lexed.tokens = passed ++ ts ∧ passed.length = index

/-- A mistake is reported at one of the entries. -/
def Lexed.Marks (lexed : Lexed) (mistake : Mistake) : Prop :=
  ∃ entry ∈ lexed.items, mistake.position = some entry.position

/-- The machine does what a parsing function says of the tokens under the cursor: it gives the value
and moves to the rest, or stops at the mistake. -/
def Follows (lexed : Lexed) (expression : String) (x : Cursor α) (ts : List Token)
    (outcome : Except Mistake (α × List Token)) : Prop :=
  ∀ index, lexed.Ahead index ts →
    match outcome with
    | .ok (a, rest) => ∃ index', lexed.Ahead index' rest ∧ Yields x index a index'
    | .error mistake =>
      lexed.Marks mistake ∧ ∃ index', Fails x index (.syntaxError { mistake, expression }) index'

theorem Lexed.Ahead.here (ahead : lexed.Ahead index ts) :
    lexed.items[index]? = some (entryOf lexed.finish ts) := by
  obtain ⟨passed, same, rfl⟩ := ahead
  rw [Lexed.items, same, List.map_append, List.append_assoc,
    List.getElem?_append_right (by simp), List.length_map, Nat.sub_self]
  cases ts <;> rfl

theorem Lexed.Ahead.mem (ahead : lexed.Ahead index ts) :
    entryOf lexed.finish ts ∈ lexed.items :=
  List.mem_of_getElem? ahead.here

theorem Lexed.Ahead.next (ahead : lexed.Ahead index (t :: rest)) :
    lexed.Ahead (index + 1) rest := by
  obtain ⟨passed, same, rfl⟩ := ahead
  exact ⟨passed ++ [t], by rw [same, List.append_assoc, List.singleton_append], by simp⟩

theorem Lexed.Ahead.lt (ahead : lexed.Ahead index ts) : index < lexed.items.length :=
  (List.getElem?_eq_some_iff.mp ahead.here).1

namespace Follows

theorem pure (a : α) (ts : List Token) :
    Follows lexed expression (Pure.pure a) ts (.ok (a, ts)) :=
  fun index ahead => ⟨index, ahead, .pure a index⟩

theorem bind {outcome : Except Mistake (β × List Token)}
    (first : Follows lexed expression x ts (.ok (a, rest)))
    (second : Follows lexed expression (f a) rest outcome) :
    Follows lexed expression (x >>= f) ts outcome := by
  intro index ahead
  obtain ⟨middle, passed, yields⟩ := first index ahead
  have others := second middle passed
  cases outcome with
  | error mistake =>
    obtain ⟨marks, index', fails⟩ := others
    exact ⟨marks, index', fails_bind_iff.mpr (Or.inr ⟨a, middle, yields, fails⟩)⟩
  | ok result =>
    obtain ⟨index', behind, yields'⟩ := others
    exact ⟨index', behind, yields.bind yields'⟩

theorem bind_error (first : Follows lexed expression x ts (.error mistake)) :
    Follows lexed expression (x >>= f) ts (.error mistake) := by
  intro index ahead
  obtain ⟨marks, index', fails⟩ := first index ahead
  exact ⟨marks, index', fails_bind_iff.mpr (Or.inl fails)⟩

/-- What is computed from a value at the end. -/
theorem map {g : α → β}
    (first : Follows lexed expression x ts outcome) :
    Follows lexed expression (x >>= fun a => Pure.pure (g a)) ts
      (outcome.map fun (a, rest) => (g a, rest)) := by
  cases outcome with
  | error mistake => exact first.bind_error
  | ok result => exact first.bind (pure _ _)

/-- A test that holds. -/
theorem yes {p : Prop} [Decidable p] {y : Cursor α} (holds : p)
    (first : Follows lexed expression x ts outcome) :
    Follows lexed expression (if p then x else y) ts outcome := by
  rw [if_pos holds]
  exact first

/-- A test that does not hold. -/
theorem no {p : Prop} [Decidable p] {y : Cursor α} (fails : ¬ p)
    (second : Follows lexed expression x ts outcome) :
    Follows lexed expression (if p then y else x) ts outcome := by
  rw [if_neg fails]
  exact second

/-- A test that is seen not to hold. -/
theorem skip {p : Prop} [Decidable p] {y : Cursor α} (fails : decide p = false)
    (second : Follows lexed expression x ts outcome) :
    Follows lexed expression (if p then y else x) ts outcome :=
  no (of_decide_eq_false fails) second

theorem current (ts : List Token) :
    Follows lexed expression (lexed.tape expression).current ts
      (.ok (entryOf lexed.finish ts, ts)) := by
  intro index ahead
  refine ⟨index, ahead, (Yields.get index).bind ?_⟩
  rw [show (lexed.tape expression).entries[index]? = some _ from ahead.here]
  exact .pure _ index

theorem advance (t : Token) (rest : List Token) :
    Follows lexed expression (lexed.tape expression).advance (t :: rest) (.ok (t.entry, rest)) := by
  refine bind (current _) (no t.kind_ne_finish ?_)
  intro index ahead
  have inside : index + 1 < (lexed.tape expression).entries.length := ahead.next.lt
  have moved : Yields ((lexed.tape expression).moveTo (index + 1)) index () (index + 1) := by
    rw [Tape.moveTo, if_pos inside]
    rfl
  exact ⟨index + 1, ahead.next, (Yields.get index).bind (moved.bind (.pure _ _))⟩

theorem failAt (reason : Reason) (seen : entry ∈ lexed.items) :
    Follows lexed expression ((lexed.tape expression).failAt reason entry : Cursor α) ts
      (.error ⟨reason, some entry.position⟩) :=
  fun index _ => ⟨⟨entry, seen, rfl⟩, index, fails_throw_iff.mpr ⟨rfl, rfl⟩⟩

theorem fail (reason : Reason) :
    Follows lexed expression ((lexed.tape expression).fail reason : Cursor α) ts
      (.error (mistakeAt lexed.finish ts reason)) := by
  intro index ahead
  have failing : Follows lexed expression
      ((lexed.tape expression).failAt reason (entryOf lexed.finish ts) : Cursor α) ts _ :=
    failAt reason ahead.mem
  rw [position_entryOf] at failing
  exact bind (current ts) failing index ahead

/-- What is under the cursor is among the tokens. -/
theorem ofSuffix (each : ts <:+ lexed.tokens → Follows lexed expression x ts outcome) :
    Follows lexed expression x ts outcome := by
  intro index ahead
  obtain ⟨passed, same, length⟩ := ahead
  exact each ⟨passed, same.symm⟩ index ⟨passed, same, length⟩

/-- What is under the cursor is among the entries. -/
theorem seen
    (each : entryOf lexed.finish ts ∈ lexed.items → Follows lexed expression x ts outcome) :
    Follows lexed expression x ts outcome :=
  fun index ahead => each ahead.mem index ahead

theorem readNumber {numeral : List Char} (readable : (Lexeme.number numeral).Readable) :
    Follows lexed expression (readNumber (String.ofList numeral)) ts
      (.ok (numeralValue numeral 0, ts)) := by
  unfold Condition.readNumber
  rw [String.toList_ofList, readable numeral rfl]
  exact pure _ ts

theorem readComparator (comparator : Comparator) :
    Follows lexed expression (readComparator comparator.symbol) ts (.ok (comparator, ts)) := by
  have found : Comparator.ofSymbol? comparator.symbol = some comparator := by
    cases comparator <;> rfl
  unfold Condition.readComparator
  rw [found]
  exact pure _ ts

end Follows

/-- What a parsing function says, without what its rest is a rest of. -/
def Parsed.view (parsed : Parsed α ts) : Except Mistake (α × List Token) :=
  parsed.map fun front => (front.value, front.rest)

theorem Parsed.view_weaken {us : List Token} (parsed : Parsed α ts) (le : ts.length ≤ us.length) :
    Parsed.view (parsed.map (·.weaken le)) = parsed.view := by
  cases parsed <;> rfl

theorem Parsed.view_map (parsed : Parsed α ts) (g : α → β) :
    Parsed.view (parsed.map (·.map g)) = parsed.view.map fun (a, rest) => (g a, rest) := by
  cases parsed <;> rfl

theorem Parsed.view_map_weaken {us : List Token} (parsed : Parsed α ts) (g : α → β)
    (le : ts.length ≤ us.length) :
    Parsed.view (parsed.map fun front => (front.map g).weaken le) =
      parsed.view.map fun (a, rest) => (g a, rest) := by
  cases parsed <;> rfl

namespace Follows

variable {parsed : Parsed α ts}

/-- A chain stops where its first part does. -/
theorem stop (first : Follows lexed expression x ts parsed.view)
    (failed : parsed = .error mistake) :
    Follows lexed expression (x >>= f) ts (.error mistake) := by
  rw [failed] at first
  exact bind_error first

/-- A chain goes on behind what its first part reads. -/
theorem step {front : Front α ts} {outcome : Except Mistake (β × List Token)}
    (first : Follows lexed expression x ts parsed.view) (read : parsed = .ok front)
    (second : Follows lexed expression (f front.value) front.rest outcome) :
    Follows lexed expression (x >>= f) ts outcome := by
  rw [read] at first
  exact bind first second

end Follows

end Following

end SheetExport.Condition
