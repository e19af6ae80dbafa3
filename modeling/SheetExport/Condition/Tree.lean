/-
**Conditions on a cell's value.**

A condition is a tree of tests joined by the connectives and, or, exclusive or and not. A test
compares the value with numbers or with a text, or asks for a property such as being empty. The
operands of a test are optional, because a tree may also be built by hand: a missing number counts
as zero, and no text matches a missing one.

`Tree.text` is the canonical written form, fully parenthesised.
-/

import SheetExport.Number.Shortest

namespace SheetExport.Condition

/-- The comparators between a value and a number. -/
inductive Comparator
  | lt | le | gt | ge | eq | ne
deriving Repr, DecidableEq

/-- The ways to match a value's text. -/
inductive TextMatch
  | equals | equalsIgnoreCase | contains | startsWith | endsWith
deriving Repr, DecidableEq

/-- The properties that need no operand. -/
inductive Property
  | isNegative | isPositive | isZero | isNull | isNotNull | isEmpty | isNotEmpty
deriving Repr, DecidableEq

/-- A test of one value. -/
inductive Test
  | compare (comparator : Comparator) (operand : Option Float)
  | between (lower upper : Option Float)
  | matchText (how : TextMatch) (operand : Option String)
  | has (property : Property)
deriving Inhabited

/-- The logical connectives. A tree built by hand may join two conditions by `not`, which never
holds. -/
inductive Connective
  | and | or | xor | not
deriving Repr, DecidableEq

/-- A condition. -/
inductive Tree
  | test (t : Test)
  | join (connective : Connective) (left right : Tree)
  | negate (operand : Tree)
deriving Inhabited

/-! ### Names -/

/-- The symbol of a comparator. -/
def Comparator.symbol : Comparator → String
  | lt => "<" | le => "<=" | gt => ">" | ge => ">=" | eq => "==" | ne => "!="

/-- The keyword of a text match. -/
def TextMatch.keyword : TextMatch → String
  | equals => "equals"
  | equalsIgnoreCase => "equals_ignore_case"
  | contains => "contains"
  | startsWith => "starts_with"
  | endsWith => "ends_with"

/-- The keyword of a property. -/
def Property.keyword : Property → String
  | isNegative => "is_negative"
  | isPositive => "is_positive"
  | isZero => "is_zero"
  | isNull => "is_null"
  | isNotNull => "is_not_null"
  | isEmpty => "is_empty"
  | isNotEmpty => "is_not_empty"

/-- The symbol of a connective. -/
def Connective.symbol : Connective → String
  | and => "&&" | or => "||" | xor => "^" | not => "!"

/-- All comparators. -/
def Comparator.all : List Comparator := [lt, le, gt, ge, eq, ne]

/-- All text matches. -/
def TextMatch.all : List TextMatch := [equals, equalsIgnoreCase, contains, startsWith, endsWith]

/-- All properties. -/
def Property.all : List Property :=
  [isNegative, isPositive, isZero, isNull, isNotNull, isEmpty, isNotEmpty]

/-- All connectives. -/
def Connective.all : List Connective := [and, or, xor, not]

/-- The comparator with a symbol. -/
def Comparator.ofSymbol? (s : String) : Option Comparator := all.find? (·.symbol = s)

/-- The text match with a keyword. -/
def TextMatch.ofKeyword? (s : String) : Option TextMatch := all.find? (·.keyword = s)

/-- The property with a keyword. -/
def Property.ofKeyword? (s : String) : Option Property := all.find? (·.keyword = s)

/-- The connective with a symbol. -/
def Connective.ofSymbol? (s : String) : Option Connective := all.find? (·.symbol = s)

/-- The name of a kind of test: its symbol or keyword. -/
def Test.kind : Test → String
  | compare comparator _ => comparator.symbol
  | between _ _ => "between"
  | matchText how _ => how.keyword
  | has property => property.keyword

/-- The test of a given kind with the operands it uses out of those given. -/
def Test.ofKind? (kind : String) (number upper : Option Float) (text : Option String) :
    Option Test :=
  match Comparator.ofSymbol? kind, TextMatch.ofKeyword? kind, Property.ofKeyword? kind with
  | some comparator, _, _ => some (compare comparator number)
  | _, some how, _ => some (matchText how text)
  | _, _, some property => some (has property)
  | none, none, none => if kind = "between" then some (between number upper) else none

/-! ### The written form -/

/-- A number in a condition: an integral one without places, others in their shortest text. -/
def numberText (x : Float) : String :=
  match floatInteger? x with
  | some n => toString n
  | none => floatText x

/-- The written form of a test. -/
def Test.text : Test → String
  | compare comparator operand =>
    "value " ++ comparator.symbol ++ " " ++ numberText (operand.getD 0.0)
  | between lower upper =>
    "value between " ++ numberText (lower.getD 0.0) ++ " and " ++ numberText (upper.getD 0.0)
  | matchText how operand => "value " ++ how.keyword ++ " '" ++ operand.getD "None" ++ "'"
  | has property => "value " ++ property.keyword

/-- The written form of a condition; every join is parenthesised. -/
def Tree.text : Tree → String
  | test t => t.text
  | join connective left right =>
    "(" ++ left.text ++ " " ++ connective.symbol ++ " " ++ right.text ++ ")"
  | negate operand => "!" ++ operand.text

end SheetExport.Condition
