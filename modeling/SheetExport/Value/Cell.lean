/-
**What a cell can hold.**

`CellValue` is the image of `Value` in a spreadsheet: numbers are integers or finite floats,
enumeration members stand for their values, and objects become texts. `Value.toCell` converts, and
fails only when an object has no text; `CellValue.toValue` is the way back.
-/

import SheetExport.Number.Binary
import SheetExport.Text.Width
import SheetExport.Value.Number

namespace SheetExport

/-- A value that a cell can hold. -/
inductive CellValue
  | null
  | bool (b : Bool)
  | int (n : Int)
  | float (x : Float)
  | text (s : String)
  | date (d : Date)
  | dateTime (d : DateTime)
  | time (t : TimeOfDay)

/-- A cell's value as a value like any other. -/
def CellValue.toValue : CellValue → Value
  | null => .null
  | bool b => .bool b
  | int n => .int n
  | float x => .float x
  | text s => .text s
  | date d => .date d
  | dateTime d => .dateTime d
  | time t => .time t

/-- A float in a cell: one that is not finite leaves the cell empty. -/
def CellValue.ofFloat? (x : Option Float) : CellValue :=
  match x.filter Float.isFinite with
  | some finite => .float finite
  | none => .null

/-- The conversion of a value into what a cell can hold. -/
def Value.toCell : Value → Except Fault CellValue
  | null => .ok .null
  | bool b => .ok (.bool b)
  | int n | intMember _ n => .ok (.int n)
  | text s | textMember _ s => .ok (.text s)
  | member _ value => value.toCell
  | date d => .ok (.date d)
  | dateTime d => .ok (.dateTime d)
  | time t => .ok (.time t)
  | float x => .ok (.ofFloat? (some x))
  | decimal d => .ok (.ofFloat? d.toFloat?)
  | ratio q => .ok (.ofFloat? (some (ratioFloat q)))
  | quantity _ magnitude => .ok (.ofFloat? magnitude)
  | object shown | code _ shown => shown.map .text
  | duration d => .ok (.text d.text)
  | complex z => .ok (.text z.text)

/-! ### Default formats and widths -/

/-- The number format of a temporal value whose column declares none. -/
def Value.temporalFormat? : Value → Option String
  | dateTime _ => some "yyyy-mm-dd hh:mm:ss"
  | date _ => some "yyyy-mm-dd"
  | time _ => some "hh:mm:ss"
  | _ => none

/-- The text whose width a float is given: an integral one without places, others with four. -/
def floatWidthText (x : Float) : List Char :=
  match Binary.ofFloat? x with
  | none => []
  | some b => match b.toInt? with
    | some n => (toString n).toList
    | none => b.fixedText 4

/-- The width of a value in character units. -/
def Value.width : Value → Except Fault Nat
  | null => .ok 0
  | bool _ => .ok "FALSE".length
  | float x => .ok (Text.displayWidth (floatWidthText x))
  | v => match v.temporalFormat? with
    | some format => .ok (Text.displayWidth format.toList)
    | none => v.display.map fun shown => Text.displayWidth shown.toList

/-- The width of a cell's value, nothing for an integer with more digits than are written. -/
def CellValue.width (v : CellValue) : Nat := v.toValue.width.toOption.getD 0

end SheetExport
