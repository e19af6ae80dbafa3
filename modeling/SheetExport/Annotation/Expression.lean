/-
**Expressions that annotations are written as.**

An annotation combines names and constants by subscripts, by alternatives and by the other operators
of expressions. `Constant` is what a token stands for on its own, `Target` what the items of
something are called one after the other, and `Parameter` what a function without a name takes.
-/

import SheetExport.Value.Basic

namespace SheetExport.Annotation

/-- A constant of an expression. -/
inductive Constant
  | value (v : Value)
  | bytes (content : List UInt8)
  | ellipsis

/-- The constant of the absent value. -/
def Constant.absent : Constant := value .null

/-- The constant of a text. -/
def Constant.text (s : String) : Constant := value (.text s)

/-- Brackets around a collection of values. -/
inductive Collection
  | list | set | dictionary
deriving Repr, DecidableEq

/-- What an item of something is called. -/
inductive Target
  | name (s : String)
  /-- The parts of an item, one by one. -/
  | several (targets : List Target)
  /-- The parts that no other target takes. -/
  | rest (name : String)

/-- How a parameter takes its argument. -/
inductive Passing
  | byPosition | byEither | byName
  /-- All arguments without a name that are left. -/
  | allByPosition
  /-- All arguments with a name that are left. -/
  | allByName
deriving Repr, DecidableEq

/-- A parameter of a function. -/
structure Parameter where
  name : String
  passing : Passing
  hasDefault : Bool

/-- An expression. -/
inductive Expression
  | name (s : String)
  | constant (c : Constant)
  | tuple (items : List Expression)
  /-- A collection; the items of a dictionary are pairs. -/
  | collection (kind : Collection) (items : List Expression)
  /-- A key and its value, among the items of a dictionary. -/
  | pair (key value : Expression)
  /-- All the items of a value, among the items of something else. -/
  | spread (e : Expression)
  /-- All the keys of a value with what belongs to them. -/
  | spreadPairs (e : Expression)
  /-- A collection of what a loop gives; without a kind, it is worked out when it is needed. -/
  | comprehension (kind : Option Collection) (loop : Expression)
  /-- A body for each item of a value. -/
  | loop (target : Target) (items body : Expression)
  /-- The body of a loop where a condition holds. -/
  | filter (condition body : Expression)
  | subscript (target index : Expression)
  /-- A range of indices; what is not given is absent. -/
  | slice (start stop step : Expression)
  | member (target : Expression) (name : String)
  | call (target : Expression) (arguments : List Expression)
  /-- An argument with a name. -/
  | argument (name : String) (e : Expression)
  | signed (sign : String) (e : Expression)
  | negation (e : Expression)
  | operation (operator : String) (left right : Expression)
  /-- Operands with an operator of comparison between each two. -/
  | comparison (operators : List String) (operands : List Expression)
  | conjunction (left right : Expression)
  | disjunction (left right : Expression)
  | choice (condition yes no : Expression)
  /-- A value that has a name from now on. -/
  | assignment (name : String) (e : Expression)
  /-- A function without a name, with the values of its parameters that are given. -/
  | function (parameters : List Parameter) (defaults : List Expression) (body : Expression)
  /-- A text made of the texts of its parts. -/
  | formatted (parts : List Expression)
  /-- The text of a value in a layout; the letter tells how it is written. -/
  | field (e : Expression) (conversion : Option Char) (layout : Expression)

/-! ### Constants -/

mutual

/-- An expression that has its value before anything is evaluated. -/
def isConstant : Expression → Bool
  | .constant _ => true
  | .tuple items => areConstant items
  | .signed _ e => isConstant e
  | .operation _ left right => isConstant left && isConstant right
  | _ => false

/-- All of the expressions have their values before. -/
def areConstant : List Expression → Bool
  | [] => true
  | e :: rest => isConstant e && areConstant rest

end

/-! ### Names of loops -/

mutual

/-- The names of a target. -/
def namesOf : Target → List String
  | .name s => [s]
  | .rest s => [s]
  | .several targets => namesOfAll targets

/-- The names of targets. -/
def namesOfAll : List Target → List String
  | [] => []
  | t :: rest => namesOf t ++ namesOfAll rest

end

/-- The names of a loop and of the loops in its body. -/
def loopNames : Expression → List String
  | .loop target _ body => namesOf target ++ loopNames body
  | .filter _ body => loopNames body
  | _ => []

mutual

/-- No assignment stands among the items of a loop, and none gives another value to a name of a loop
around it. The names are those of the loops around the expression. -/
def assignsFreely (inItems : Bool) (names : List String) : Expression → Bool
  | .name _ | .constant _ => true
  | .tuple items | .collection _ items | .formatted items => allAssignFreely inItems names items
  | .spread e | .spreadPairs e | .argument _ e | .signed _ e | .negation e | .member e _ =>
    assignsFreely inItems names e
  | .pair a b | .subscript a b | .operation _ a b | .conjunction a b | .disjunction a b
  | .field a _ b => assignsFreely inItems names a && assignsFreely inItems names b
  | .slice a b c | .choice a b c =>
    assignsFreely inItems names a && assignsFreely inItems names b &&
      assignsFreely inItems names c
  | .comprehension _ loop => assignsFreely inItems (loopNames loop ++ names) loop
  | .loop _ items body => assignsFreely true names items && assignsFreely inItems names body
  | .filter condition body =>
    assignsFreely inItems names condition && assignsFreely inItems names body
  | .call target arguments =>
    assignsFreely inItems names target && allAssignFreely inItems names arguments
  | .comparison _ operands => allAssignFreely inItems names operands
  | .assignment name e =>
    !inItems && !names.contains name && assignsFreely inItems names e
  | .function _ defaults body =>
    allAssignFreely inItems names defaults && assignsFreely inItems [] body

/-- Every one of the expressions assigns freely. -/
def allAssignFreely (inItems : Bool) (names : List String) : List Expression → Bool
  | [] => true
  | e :: rest => assignsFreely inItems names e && allAssignFreely inItems names rest

end

end SheetExport.Annotation
