/-
**Values as numbers and as texts, for conditions.**

A condition sees a value in three ways: whether it is absent, the number it can be read as
(`Value.number?`) and the text it can be read as (`Value.text?`). Numbers of all kinds count,
truth values do not; a text counts if it is a numeral, with or without white space around it and
commas inside. A number beyond all floats is none.
-/

import SheetExport.Text.Ranges
import SheetExport.Value.Basic

namespace SheetExport.Value

/-- The float that a number converts to; none for other kinds and for numbers beyond all floats. -/
def toFloat? : Value → Option Float
  | int n | intMember _ n => some (Float.ofInt n)
  | float x => some x
  | decimal d => d.toFloat?
  | ratio q => some (ratioFloat q)
  | quantity _ magnitude => magnitude
  | _ => none

/-- A text without white space around it and without commas. -/
def numeralOf (s : String) : List Char := (Text.strip s.toList).filter (· ≠ ',')

/-- The finite number that a value can be read as. -/
def number? (v : Value) : Option Float :=
  let reading := match v with
    | text s | textMember _ s => readNumber? (numeralOf s)
    | other => other.toFloat?
  reading.filter Float.isFinite

/-- The text that a value can be read as; none for null and for objects without a text. -/
def text? : Value → Option String
  | null => none
  | v => v.display.toOption

end SheetExport.Value
