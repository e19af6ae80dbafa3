/-
**Compiled conditions.**

A condition is compiled once from its source text and then asked about many values. Compiling
either gives a `Condition` or says what is wrong and where (`SyntaxError`).
-/

import SheetExport.Condition.Lexer
import SheetExport.Condition.Parser
import SheetExport.Condition.Truth

namespace SheetExport

/-- A condition together with the text it was written as. -/
structure Condition where
  source : String
  root : Condition.Tree

namespace Condition

/-- The condition that an expression writes. -/
def parse (expression : String) : Except SyntaxError Condition :=
  if Text.isAllBlank expression.toList then
    .error { mistake := ⟨.emptyExpression, none⟩, expression }
  else
    match tokenize expression with
    | .error e => .error e
    | .ok lexed =>
      match lexed.parse with
      | .error mistake => .error { mistake, expression }
      | .ok root => .ok ⟨expression, root⟩

/-- The canonical written form of a condition. -/
def text (c : Condition) : String := c.root.text

/-- What a condition says of a value. -/
def holds (c : Condition) (v : Value) : Bool := c.root.holds v

end Condition

end SheetExport
