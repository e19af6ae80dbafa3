/-
**Tokens of the condition language, and what can be wrong with a condition.**

A token is a lexeme at a position, counted in characters. The end of the text is no token: `Lexed`
keeps the tokens and where the text ends.
-/

import SheetExport.Condition.Tree
import SheetExport.Value.Basic

namespace SheetExport.Condition

/-- The meaning of one token. Words are in lower case; quoted texts are as written. -/
inductive Lexeme
  | leftParen
  | rightParen
  | connective (c : Connective)
  | comparator (c : Comparator)
  | number (numeral : List Char)
  | quoted (text : List Char)
  | word (lower : List Char)
deriving Repr, DecidableEq

/-- A lexeme and the position of its first character. -/
structure Token where
  lexeme : Lexeme
  position : Nat
deriving Repr, DecidableEq

/-- The tokens of a text and the position of its end. -/
structure Lexed where
  tokens : List Token
  finish : Nat
deriving Repr, DecidableEq

/-- The name of a kind of lexeme. -/
def Lexeme.kind : Lexeme → String
  | leftParen => "("
  | rightParen => ")"
  | connective c => c.symbol
  | comparator _ => "comparator"
  | number _ => "number"
  | quoted _ => "string"
  | word _ => "word"

/-- The text of a lexeme, as messages show it; a quoted text comes without its quotes. -/
def Lexeme.text : Lexeme → String
  | leftParen => "("
  | rightParen => ")"
  | connective c => c.symbol
  | comparator c => c.symbol
  | number numeral => String.ofList numeral
  | quoted text => String.ofList text
  | word lower => String.ofList lower

/-- Kind, text and position of every token, the end of the text included. -/
def Lexed.entries (lexed : Lexed) : List (String × String × Nat) :=
  lexed.tokens.map (fun t => (t.lexeme.kind, t.lexeme.text, t.position)) ++
    [("end", "", lexed.finish)]

/-! ### Errors -/

/-- The parts of a `between` clause that may be missing. -/
inductive BetweenPart
  | lower | conjunction | upper
deriving Repr, DecidableEq

/-- What is wrong with a condition. -/
inductive Reason
  | emptyExpression
  | unterminatedText
  | unknownOperator (found : String)
  | unexpectedClose
  | unexpectedToken (found : String)
  | emptyParentheses
  | missingClose
  | missingOperand
  | expectedValue (found : String)
  | missingComparator
  | unknownKeyword (found : String)
  | missingNumber (comparator : Comparator)
  | expectedNumber (comparator : Comparator) (found : String)
  | incompleteBetween (part : BetweenPart)
  | unquotedText (found : String) (how : TextMatch)
  | expectedText (how : TextMatch)
deriving Repr, DecidableEq

/-- The words for a part of a `between` clause. -/
def BetweenPart.text : BetweenPart → String
  | lower => "lower bound"
  | conjunction => "'and'"
  | upper => "upper bound"

/-- The wording of a reason. -/
def Reason.text : Reason → String
  | emptyExpression => "Empty expression"
  | unterminatedText => "Unterminated string literal"
  | unknownOperator found => "Unknown operator " ++ Text.quoted found
  | unexpectedClose => "Unbalanced parentheses: unexpected ')'"
  | unexpectedToken found => "Unexpected token " ++ Text.quoted found
  | emptyParentheses => "Empty parentheses"
  | missingClose => "Unbalanced parentheses: missing ')'"
  | missingOperand => "Missing operand"
  | expectedValue found => "Expected 'value' but found " ++ Text.quoted found
  | missingComparator => "Missing comparator after 'value'"
  | unknownKeyword found => "Unknown keyword " ++ Text.quoted found
  | missingNumber comparator =>
    "Missing numeric operand after " ++ Text.quoted comparator.symbol
  | expectedNumber comparator found =>
    "Numeric operand expected after " ++ Text.quoted comparator.symbol ++ ", found " ++
      Text.quoted found
  | incompleteBetween part => "Incomplete 'between' clause: " ++ part.text ++ " expected"
  | unquotedText found how =>
    "Unquoted string literal " ++ Text.quoted found ++ " after " ++ Text.quoted how.keyword
  | expectedText how => "Quoted string literal expected after " ++ Text.quoted how.keyword

/-- A reason and the position it is reported at. -/
structure Mistake where
  reason : Reason
  position : Option Nat
deriving Repr, DecidableEq

/-- A mistake in an expression. -/
structure SyntaxError where
  mistake : Mistake
  expression : String
  /-- The label of the expression, if it is a member of an enumeration. -/
  label : Option String := none
deriving Repr, DecidableEq

/-- The expression as it is shown: quoted, and with its label if it has one. -/
def SyntaxError.shown (e : SyntaxError) : String :=
  match e.label with
  | some label => Value.memberText label (Text.quoted e.expression)
  | none => Text.quoted e.expression

/-- Reason, position if there is one, and the whole expression. -/
def SyntaxError.detail (e : SyntaxError) : String :=
  let place := match e.mistake.position with
    | some n => " at position " ++ toString n
    | none => ""
  e.mistake.reason.text ++ place ++ " in expression " ++ e.shown

end SheetExport.Condition
