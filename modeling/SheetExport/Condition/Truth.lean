/-
**When a condition holds.**

The truth of a condition depends on three things only: whether the value is absent, the number it
can be read as and the text it can be read as. A missing number fails every numeric test but `!=`,
a missing text fails every text match; a value is empty if it is absent, has no text, or has a
blank one. Numbers closer than `tolerance` count as equal.
-/

import SheetExport.Condition.Tree
import SheetExport.Text.Case
import SheetExport.Value.Number

namespace SheetExport

namespace Value

/-- Is the absent value. -/
def isNull : Value → Bool
  | null => true
  | _ => false

/-- Shows nothing: absent, without a text, or with a blank one. -/
def isEmpty (v : Value) : Bool :=
  match v.text? with
  | none => true
  | some shown => Text.isAllBlank shown.toList

end Value

namespace Condition

/-- Numbers closer than this count as equal. -/
def tolerance : Float := 1e-4

/-- Equality of numbers up to the tolerance. -/
def isClose (x y : Float) : Bool := (x - y).abs < tolerance

/-- What a comparator says of two numbers. -/
def Comparator.holds (comparator : Comparator) (x operand : Float) : Bool :=
  match comparator with
  | lt => x < operand
  | le => x <= operand
  | gt => x > operand
  | ge => x >= operand
  | eq => isClose x operand
  | ne => !isClose x operand

/-- The first text occurs in the second. -/
def occursIn (part : List Char) : List Char → Bool
  | [] => part.isEmpty
  | c :: cs => part.isPrefixOf (c :: cs) || occursIn part cs

/-- What a text match says of a value's text and its operand. -/
def TextMatch.holds (how : TextMatch) (shown operand : List Char) : Bool :=
  match how with
  | equals => shown = operand
  | equalsIgnoreCase => Text.foldCase shown = Text.foldCase operand
  | contains => occursIn operand shown
  | startsWith => operand.isPrefixOf shown
  | endsWith => operand.isSuffixOf shown

/-- A numeric test of a value that can be read as a number. -/
def holdsOfNumber (v : Value) (claim : Float → Bool) : Bool :=
  match v.number? with
  | some x => claim x
  | none => false

/-- What a property says of a value. -/
def Property.holds (property : Property) (v : Value) : Bool :=
  match property with
  | isNegative => holdsOfNumber v (· < 0)
  | isPositive => holdsOfNumber v (· > 0)
  | isZero => holdsOfNumber v (fun x => x.abs < tolerance)
  | isNull => v.isNull
  | isNotNull => !v.isNull
  | isEmpty => v.isEmpty
  | isNotEmpty => !v.isEmpty

/-- What a test says of a value. -/
def Test.holds (t : Test) (v : Value) : Bool :=
  match t with
  | compare .ne operand => !holdsOfNumber v (Comparator.eq.holds · (operand.getD 0.0))
  | compare comparator operand => holdsOfNumber v (comparator.holds · (operand.getD 0.0))
  | between lower upper =>
    holdsOfNumber v fun x => lower.getD 0.0 <= x && x <= upper.getD 0.0
  | matchText how operand =>
    match v.text?, operand with
    | some shown, some expected => how.holds shown.toList expected.toList
    | _, _ => false
  | has property => property.holds v

/-- What a condition says of a value. -/
def Tree.holds (tree : Tree) (v : Value) : Bool :=
  match tree with
  | test t => t.holds v
  | join .and left right => left.holds v && right.holds v
  | join .or left right => left.holds v || right.holds v
  | join .xor left right => left.holds v != right.holds v
  | join .not _ _ => false
  | negate operand => !operand.holds v

end Condition

end SheetExport
