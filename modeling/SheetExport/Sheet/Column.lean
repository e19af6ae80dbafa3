/-
**Columns and sheets, fully resolved.**

A column knows how to read its cell off a record, which style each value gets, and how its header
looks. Conditions see the value before it is masked. A sheet is a name with columns.
-/

import SheetExport.Accessor
import SheetExport.Condition.Compiled
import SheetExport.Grouping

namespace SheetExport

/-- A condition and the style of the cells on which it holds. -/
structure StyleRule where
  condition : Condition
  style : Style
  priority : Int

/-- The style of the first rule that holds on a value, or the base style. -/
def selectStyle (rules : List StyleRule) (base : Style) (v : Value) : Style :=
  match rules.find? (·.condition.holds v) with
  | some rule => rule.style
  | none => base

/-- Rules in the order in which they are tried: greater priority first, else as declared. -/
def inEvaluationOrder (rules : List StyleRule) : List StyleRule :=
  rules.mergeSort fun a b => decide (b.priority ≤ a.priority)

/-- A value in a cell, and its style. -/
structure Cell where
  value : CellValue
  style : Style

/-- A column. Its width is positive, or negative for fitting to the content. -/
structure Column where
  name : String
  header : String
  order : Int
  width : Int
  kind : FieldKind
  headerStyle : Style
  columnStyle : Style
  mergeHeaderStyle : Style
  accessor : Accessor
  dataFormat : String
  sheetName : String
  /-- How texts are masked; a column that was changed may be without a strategy. -/
  masking : Option Masking
  mergeHeader : String
  rules : List StyleRule

/-- The width that stands for fitting to the content. -/
def autoWidth : Int := -1

namespace Column

/-- A column of a header and an order alone, with one style throughout. -/
def plain (style : Style) (header : String) (order : Int) : Column where
  name := header
  header := header
  order := order
  width := 12
  kind := .other
  headerStyle := style
  columnStyle := style
  mergeHeaderStyle := style
  accessor := .display
  dataFormat := ""
  sheetName := ""
  masking := some .none
  mergeHeader := ""
  rules := []

/-- The style of a value in the column. -/
def styleOf (c : Column) (v : Value) : Style := selectStyle c.rules c.columnStyle v

/-- A value as the column's cells show it. -/
def masked (c : Column) (v : CellValue) : CellValue :=
  match c.masking with
  | some masking => masking.maskCell v
  | none => v

/-- The cell of a value that was read off a record. -/
def cellOf (c : Column) (v : CellValue) : Cell := ⟨c.masked v, c.styleOf v.toValue⟩

/-- The cell of a record. -/
def extract (c : Column) (r : Record) : Except Fault Cell :=
  match c.accessor.read r with
  | .error fault => .error fault
  | .ok v => v.toCell.map c.cellOf

/-- The cell where there is no record. -/
def emptyCell (c : Column) : Cell := ⟨.null, c.styleOf .null⟩

/-- Equality of rules. -/
def sameRule (a b : StyleRule) : Bool :=
  a.condition.source = b.condition.source && a.style.stamp = b.style.stamp &&
    a.priority = b.priority

/-- Equality of columns, their accessors apart. -/
def same (a b : Column) : Bool :=
  a.name = b.name && a.header = b.header && a.order = b.order && a.width = b.width &&
  a.kind = b.kind && a.headerStyle.stamp = b.headerStyle.stamp &&
  a.columnStyle.stamp = b.columnStyle.stamp &&
  a.mergeHeaderStyle.stamp = b.mergeHeaderStyle.stamp &&
  a.dataFormat = b.dataFormat && a.sheetName = b.sheetName && a.masking = b.masking &&
  a.mergeHeader = b.mergeHeader && a.rules.length = b.rules.length &&
  (a.rules.zip b.rules).all fun (r, s) => sameRule r s

end Column

/-- A sheet: its name, its columns, and whether and where it comes in an ordered workbook. -/
structure Sheet where
  name : String
  columns : List Column
  hasHeader : Bool
  order : Option Int

namespace Sheet

/-- The headers of the columns. -/
def headers (s : Sheet) : List String := s.columns.map Column.header

/-- The least order of a column. -/
def minOrder (s : Sheet) : Int := ((s.columns.map Column.order).min?).getD 0

/-- Some column has a label above its header. -/
def hasMergeHeader (s : Sheet) : Bool := s.columns.any (·.mergeHeader ≠ "")

/-- The values of a record's cells. -/
def extractRow (s : Sheet) (r : Record) : Except Fault (List CellValue) :=
  s.columns.mapM fun c => (c.extract r).map Cell.value

/-- The columns by the sheet that each of them goes to, this one first. -/
def columnsBySheet (s : Sheet) : List (String × List Column) :=
  let parts := groupBy (fun c => if c.sheetName = "" then s.name else c.sheetName) s.columns
  parts.filter (·.1 = s.name) ++ parts.filter (·.1 ≠ s.name)

/-- The sheets that the columns go to; only this sheet keeps the order. -/
def split (s : Sheet) : List (String × Sheet) :=
  s.columnsBySheet.map fun (name, columns) =>
    (name, ⟨name, columns, s.hasHeader, if name = s.name then s.order else none⟩)

end Sheet

end SheetExport
