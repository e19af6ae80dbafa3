/-
**From tokens to a condition.**

The grammar, loosest connective first; all connectives group to the left:

* `or`: operands joined by `||` or the word `or`
* `xor`: operands joined by `^`
* `and`: operands joined by `&&` or the word `and`
* operand: `!` operand, a parenthesised condition, or a test, which begins with the word `value`

The `and` of a `between` clause belongs to that clause. Every parsing function returns a `Front`,
whose rest is shorter than what was given; the functions call each other on shorter lists, or on the
same list at a tighter level. An empty list stands for the end of the text at `finish`.
-/

import SheetExport.Condition.Token
import SheetExport.Number.Numeral

namespace SheetExport.Condition

/-- Something read off the front of `ts`, and what follows it. -/
structure Front (α : Type) (ts : List Token) where
  value : α
  rest : List Token
  shorter : rest.length < ts.length

/-- What the parsing functions return. -/
abbrev Parsed (α : Type) (ts : List Token) := Except Mistake (Front α ts)

/-- Where a list of tokens begins. -/
def startOf (finish : Nat) : List Token → Nat
  | [] => finish
  | t :: _ => t.position

/-- A mistake at the beginning of a list of tokens. -/
def mistakeAt (finish : Nat) (ts : List Token) (reason : Reason) : Mistake :=
  ⟨reason, some (startOf finish ts)⟩

/-- A front of a list is one of every longer list. -/
def Front.weaken {α : Type} {ts us : List Token} (f : Front α ts) (le : ts.length ≤ us.length) :
    Front α us :=
  ⟨f.value, f.rest, Nat.lt_of_lt_of_le f.shorter le⟩

/-- The same front with another value. -/
def Front.map {α β : Type} {ts : List Token} (g : α → β) (f : Front α ts) : Front β ts :=
  ⟨g f.value, f.rest, f.shorter⟩

/-! ### Tests -/

/-- The number after a comparator. -/
def parseOperandNumber (finish : Nat) (comparator : Comparator) (ts : List Token) :
    Parsed Float ts :=
  match ts with
  | [] => .error (mistakeAt finish [] (.missingNumber comparator))
  | ⟨.number numeral, _⟩ :: rest => .ok ⟨numeralValue numeral 0, rest, by simp⟩
  | t :: rest => .error (mistakeAt finish (t :: rest) (.expectedNumber comparator t.lexeme.text))

/-- One bound of a `between` clause. -/
def parseBound (finish : Nat) (part : BetweenPart) (ts : List Token) : Parsed Float ts :=
  match ts with
  | ⟨.number numeral, _⟩ :: rest => .ok ⟨numeralValue numeral 0, rest, by simp⟩
  | other => .error (mistakeAt finish other (.incompleteBetween part))

/-- The word between the bounds. -/
def parseConjunction (finish : Nat) (ts : List Token) : Parsed Unit ts :=
  match ts with
  | ⟨.word w, position⟩ :: rest =>
    if w = "and".toList then .ok ⟨(), rest, by simp⟩
    else .error ⟨.incompleteBetween .conjunction, some position⟩
  | other => .error (mistakeAt finish other (.incompleteBetween .conjunction))

/-- The bounds of a `between` clause. -/
def parseBetween (finish : Nat) (ts : List Token) : Parsed Test ts :=
  match parseBound finish .lower ts with
  | .error mistake => .error mistake
  | .ok lower =>
    match parseConjunction finish lower.rest with
    | .error mistake => .error mistake
    | .ok conjunction =>
      match parseBound finish .upper conjunction.rest with
      | .error mistake => .error mistake
      | .ok upper =>
        .ok ⟨.between (some lower.value) (some upper.value), upper.rest,
          Nat.lt_trans upper.shorter (Nat.lt_trans conjunction.shorter lower.shorter)⟩

/-- The quoted text after a keyword. -/
def parseText (finish : Nat) (how : TextMatch) (ts : List Token) : Parsed String ts :=
  match ts with
  | ⟨.quoted text, _⟩ :: rest => .ok ⟨String.ofList text, rest, by simp⟩
  | ⟨.word lower, position⟩ :: _ =>
    .error ⟨.unquotedText (String.ofList lower) how, some position⟩
  | ⟨.number numeral, position⟩ :: _ =>
    .error ⟨.unquotedText (String.ofList numeral) how, some position⟩
  | other => .error (mistakeAt finish other (.expectedText how))

/-- What a keyword begins. -/
inductive Keyword
  | between
  | matchText (how : TextMatch)
  | has (property : Property)

/-- The keyword that a word is. -/
def Keyword.ofWord? (w : List Char) : Option Keyword :=
  let name := String.ofList w
  if name = "between" then some between
  else
    match TextMatch.ofKeyword? name with
    | some how => some (matchText how)
    | none => (Property.ofKeyword? name).map has

/-- The rest of a test after its keyword, which stood at the front of
`⟨.word w, position⟩ :: ts`. -/
def parseKeyword (finish : Nat) (w : List Char) (position : Nat) (ts : List Token) :
    Parsed Test (⟨.word w, position⟩ :: ts) :=
  match Keyword.ofWord? w with
  | none => .error ⟨.unknownKeyword (String.ofList w), some position⟩
  | some .between => (parseBetween finish ts).map (·.weaken (by simp))
  | some (.matchText how) =>
    (parseText finish how ts).map fun f =>
      (f.map fun text => Test.matchText how (some text)).weaken (by simp)
  | some (.has property) => .ok ⟨.has property, ts, by simp⟩

/-- The rest of a test after the word `value`. -/
def parseComparison (finish : Nat) (ts : List Token) : Parsed Test ts :=
  match ts with
  | [] => .error (mistakeAt finish [] .missingComparator)
  | ⟨.comparator comparator, _⟩ :: rest =>
    (parseOperandNumber finish comparator rest).map fun f =>
      (f.map fun x => Test.compare comparator (some x)).weaken (by simp)
  | ⟨.word w, position⟩ :: rest => parseKeyword finish w position rest
  | t :: _ => .error ⟨.unknownOperator t.lexeme.text, some t.position⟩

/-- A test. -/
def parseTest (finish : Nat) (ts : List Token) : Parsed Test ts :=
  match ts with
  | [] => .error (mistakeAt finish [] .missingOperand)
  | t :: rest =>
    if t.lexeme = .word "value".toList then
      (parseComparison finish rest).map (·.weaken (by simp))
    else .error ⟨.expectedValue t.lexeme.text, some t.position⟩

/-! ### Connectives -/

/-- The levels of precedence of the joining connectives. -/
inductive Level
  | or | xor | and
deriving Repr, DecidableEq

namespace Level

/-- The connective of a level. -/
def connective : Level → Connective
  | or => .or
  | xor => .xor
  | and => .and

/-- The word that may stand for the connective of a level. -/
def word? : Level → Option (List Char)
  | or => some "or".toList
  | xor => none
  | and => some "and".toList

/-- The next tighter level. -/
def tighter? : Level → Option Level
  | or => some xor
  | xor => some and
  | and => none

/-- Tighter levels have smaller ranks. -/
def rank : Level → Nat
  | or => 3
  | xor => 2
  | and => 1

/-- The lexeme joins two operands of the level. -/
def joins (level : Level) : Lexeme → Bool
  | .connective c => c = level.connective
  | .word w => level.word? = some w
  | _ => false

/-- A tighter level has a smaller rank. -/
theorem rank_lt_of_tighter? {level tighter : Level} (next : level.tighter? = some tighter) :
    tighter.rank < level.rank := by
  cases level <;> simp_all [tighter?] <;> subst next <;> decide

end Level

mutual

/-- A condition at a level: operands of the next level joined by the level's connective. -/
def parseLevel (finish : Nat) (level : Level) (ts : List Token) : Parsed Tree ts :=
  match parseOperand finish level ts with
  | .error mistake => .error mistake
  | .ok first => parseJoined finish level first
termination_by (ts.length, 2 * level.rank)
decreasing_by
  · exact Prod.Lex.right _ (by cases level <;> decide)
  · exact Prod.Lex.left _ _ first.shorter

/-- The further operands of a level after those read so far. -/
def parseJoined (finish : Nat) (level : Level) {ts : List Token} (soFar : Front Tree ts) :
    Parsed Tree ts :=
  match h : soFar.rest with
  | [] => .ok soFar
  | t :: rest =>
    if level.joins t.lexeme then
      match parseOperand finish level rest with
      | .error mistake => .error mistake
      | .ok next =>
        parseJoined finish level
          ⟨.join level.connective soFar.value next.value, next.rest, by
            have := soFar.shorter
            have := next.shorter
            simp only [h, List.length_cons] at *
            omega⟩
    else .ok soFar
termination_by (soFar.rest.length, 2 * level.rank)
decreasing_by
  · exact Prod.Lex.left _ _ (by simp [h])
  · exact Prod.Lex.left _ _ (by have := next.shorter; simp only [h, List.length_cons]; omega)

/-- An operand of a level. -/
def parseOperand (finish : Nat) (level : Level) (ts : List Token) : Parsed Tree ts :=
  match _ : level.tighter? with
  | some tighter => parseLevel finish tighter ts
  | none => parseUnary finish ts
termination_by (ts.length, 2 * level.rank - 1)
decreasing_by
  · exact Prod.Lex.right _ (by have := Level.rank_lt_of_tighter? ‹_›; omega)
  · exact Prod.Lex.right _ (by cases level <;> decide)

/-- A negation, a parenthesised condition, or a test. -/
def parseUnary (finish : Nat) (ts : List Token) : Parsed Tree ts :=
  match ts with
  | ⟨.connective .not, _⟩ :: rest =>
    match parseUnary finish rest with
    | .error mistake => .error mistake
    | .ok operand => .ok ((operand.map Tree.negate).weaken (by simp))
  | ⟨.leftParen, opened⟩ :: rest =>
    match rest with
    | ⟨.rightParen, closed⟩ :: _ => .error ⟨.emptyParentheses, some closed⟩
    | inner =>
      match parseLevel finish .or inner with
      | .error mistake => .error mistake
      | .ok ⟨enclosed, ⟨.rightParen, _⟩ :: rest', shorter⟩ =>
        .ok ⟨enclosed, rest', by simp only [List.length_cons] at *; omega⟩
      | .ok _ => .error ⟨.missingClose, some opened⟩
  | other => (parseTest finish other).map (·.map Tree.test)
termination_by (ts.length, 0)
decreasing_by
  · exact Prod.Lex.left _ _ (by simp)
  · exact Prod.Lex.left _ _ (by simp)

end

/-- The condition that the tokens of an expression write, none of them left over. -/
def Lexed.parse (lexed : Lexed) : Except Mistake Tree :=
  match lexed.tokens with
  | [] => .error ⟨.emptyExpression, none⟩
  | ts =>
    match parseLevel lexed.finish .or ts with
    | .error mistake => .error mistake
    | .ok whole =>
      match whole.rest with
      | [] => .ok whole.value
      | ⟨.rightParen, position⟩ :: _ => .error ⟨.unexpectedClose, some position⟩
      | t :: _ => .error ⟨.unexpectedToken t.lexeme.text, some t.position⟩

end SheetExport.Condition
