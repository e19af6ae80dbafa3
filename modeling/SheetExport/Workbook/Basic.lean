/-
**A workbook as the calls that write it.**

A workbook has formats, each added at its first use, and worksheets, each with the calls that write
its cells in the order in which they were made.
-/

import SheetExport.Calendar
import SheetExport.Workbook.FormatTable

namespace SheetExport

/-- A call on a worksheet. Cells are given by row and column, formats by their number. -/
inductive SheetCall
  | blank (row column format : Nat)
  | boolean (row column : Nat) (b : Bool) (format : Nat)
  | number (row column : Nat) (v : CellValue) (format : Nat)
  | dateTime (row column : Nat) (v : CellValue) (format : Nat)
  | text (row column : Nat) (s : String) (format : Nat)
  | merge (firstRow firstColumn lastRow lastColumn : Nat) (s : String) (format : Nat)
  | freeze (rows : Nat)
  | width (firstColumn lastColumn : Nat) (width : Int)

/-- A worksheet. -/
structure Worksheet where
  name : String
  calls : Array SheetCall

/-- The worksheet after a further call. -/
def Worksheet.push (ws : Worksheet) (call : SheetCall) : Worksheet :=
  { ws with calls := ws.calls.push call }

/-- What is reported of a worksheet once its sheet is written. -/
structure Report where
  name : String
  declared : String
  rows : Nat
  columns : Nat
  headerRows : Nat
  warnings : List String

/-- A workbook. `names` are the worksheets' names as they are compared. -/
structure Workbook where
  table : FormatTable
  worksheets : Array Worksheet
  names : List (List Char)
  reports : List Report

/-- Computations on a workbook. -/
abbrev WorkbookM := StateM Workbook

namespace Workbook

/-- The workbook without worksheets. -/
def empty : Workbook := ⟨.empty, #[], [], []⟩

/-- The formats in the order in which they were added. -/
def formats (w : Workbook) : List Format := w.table.added

/-- The number of a format, which is added unless an equal one was. -/
def useFormat (f : Format) : WorkbookM Nat :=
  modifyGet fun w => ((w.table.use f).1, { w with table := (w.table.use f).2 })

/-- The number of a body cell's format. -/
def useCellFormat (k : CellFormatKey) : WorkbookM Nat :=
  modifyGet fun w => ((w.table.useCell k).1, { w with table := (w.table.useCell k).2 })

/-- A call on the worksheet of a number. -/
def callOn (number : Nat) (call : SheetCall) : WorkbookM Unit :=
  modify fun w =>
    { w with worksheets := w.worksheets.modify number (·.push call) }

/-- The format of a body cell: the column's data format first, then the style's, then the default
of a temporal value. -/
def cellFormat (style : Format) (dataFormat : String) (v : CellValue) : Format :=
  if dataFormat ≠ "" then style.set .numFormat (some (.text dataFormat))
  else
    match style.value? .numFormat, v.toValue.temporalFormat? with
    | none, some format => style.set .numFormat (some (.text format))
    | _, _ => style

/-- The format of a body cell is the one that its key stands for. -/
theorem format_ofCell (style : Style) (dataFormat : String) (v : CellValue) :
    (CellFormatKey.ofCell style dataFormat v).format =
      cellFormat style.spec.format dataFormat v := by
  unfold CellFormatKey.format CellFormatKey.ofCell cellFormat
  by_cases given : dataFormat = ""
  · cases own : style.spec.format.value? .numFormat with
    | none => cases v <;> simp [given, CellValue.toValue, Value.temporalFormat?]
    | some format => simp [given]
  · simp [given]

/-- The call that writes a value. -/
def valueCall (row column : Nat) (v : CellValue) (format : Nat) : SheetCall :=
  match v with
  | .null => .blank row column format
  | .bool b => .boolean row column b format
  | .int n => .number row column (.int n) format
  | .float x => .number row column (.float x) format
  | .text s => .text row column s format
  | .date d => .dateTime row column (.date d) format
  | .dateTime d => .dateTime row column (.dateTime d) format
  | .time t => .dateTime row column (.time t) format

end Workbook

end SheetExport
