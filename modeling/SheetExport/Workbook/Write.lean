/-
**Writing sheets to a workbook.**

A merged sheet is written row by row. Where the row limit is reached it goes on in another
worksheet, which repeats the header; the first worksheet's report warns of each continuation.
Widths are set at the end, the same in all worksheets of the sheet. All checks of a mapping of
sources come before the first row is written.
-/

import SheetExport.Organize.Merge
import SheetExport.Workbook.Basic
import SheetExport.Workbook.SheetName

namespace SheetExport

/-- How columns are fitted to their content. -/
structure FitPolicy where
  /-- How many body rows count; all rows if there is no limit. -/
  rowLimit : Option Int := some 20000
  least : Int := 8
  greatest : Int := 60
  padding : Int := 2

/-- How sheets are written. -/
structure WriteOptions where
  fit : FitPolicy := {}
  freezeHeader : Bool := true
  strictOrder : Bool := false
  maxRows : Int := 1048576
  maxColumns : Nat := 16384

/-- The width of a column fitted to content of a width: padded, and within the policy's limits. -/
def FitPolicy.clamp (p : FitPolicy) (content : Nat) : Int :=
  let least := max 1 p.least
  let greatest := min 255 (max least p.greatest)
  min greatest (max least (content + max 0 p.padding))

/-- Whether a body row counts behind so many others. -/
def FitPolicy.counts (p : FitPolicy) (seen : Nat) : Bool :=
  match p.rowLimit with
  | none => true
  | some limit => decide ((seen : Int) < limit)

/-- The columns that are fitted to their content. -/
def Column.isFitted (c : Column) : Bool := c.width = autoWidth

/-! ### Parts of a sheet -/

/-- Where the writing of a sheet stands. The parts are the worksheets' numbers with their
reports. -/
structure Progress where
  parts : List (Nat × Report)
  /-- Body rows in the last part. -/
  rowInPart : Nat
  /-- Body rows in all parts. -/
  seen : Nat
  /-- For each column, the greatest width of its content so far. -/
  content : List Nat

namespace Workbook

/-- Writes one cell of a header in one of its rows. -/
def writeHeaderCell (number : Nat) (plan : HeaderPlan) (row : Nat) (c : HeaderCell) :
    WorkbookM Unit := do
  let format := c.style.spec.format
  if c.firstColumn ≠ c.lastColumn then
    callOn number (.merge row c.firstColumn row c.lastColumn c.text (← useFormat format))
  else
    let bordered := match plan.borders.find? fun b => b.1 = row && b.2.1 = c.firstColumn with
      | some (_, _, border) => format.change [(.top, some (.int border.top)),
          (.bottom, some (.int border.bottom)), (.left, some (.int border.left)),
          (.right, some (.int border.right))]
      | none => format
    let used ← useFormat bordered
    if row = c.firstRow ∧ c.text ≠ "" then callOn number (.text row c.firstColumn c.text used)
    else callOn number (.blank row c.firstColumn used)

/-- Writes a header row by row, each from left to right. -/
def writeHeader (number : Nat) (plan : HeaderPlan) : WorkbookM Unit :=
  (List.range plan.rows).forM fun row =>
    let cells := (plan.cells.filter fun c => c.firstRow ≤ row && row ≤ c.lastRow).mergeSort
      fun a b => decide (a.firstColumn ≤ b.firstColumn)
    cells.forM (writeHeaderCell number plan row)

/-- Adds a worksheet with the header of a sheet. -/
def addPart (options : WriteOptions) (sheet : Sheet) (header : Option HeaderPlan)
    (name : List Char) : WorkbookM (Nat × Report) := do
  let w ← get
  let number := w.worksheets.size
  let unique := uniqueSheetName w.names name
  let shown := String.ofList unique
  set { w with
    worksheets := w.worksheets.push ⟨shown, #[]⟩
    names := Text.foldCase unique :: w.names }
  match header with
  | some plan =>
    writeHeader number plan
    if options.freezeHeader then callOn number (.freeze plan.rows)
  | none => pure ()
  return (number, ⟨shown, sheet.name, 0, sheet.columns.length,
    (header.map HeaderPlan.rows).getD 0, []⟩)

/-- The width of the content of every fitted column, with one more row. -/
def widen : List Nat → List Column → List Cell → List Nat
  | width :: content, column :: columns, cell :: cells =>
    (if column.isFitted then max width cell.value.width else width) :: widen content columns cells
  | content, _, _ => content

/-- The content's widths before the first body row: those of the headers over single columns. -/
def headerContent (columns : List Column) (header : Option HeaderPlan) : List Nat :=
  (List.range columns.length).map fun position =>
    match header with
    | none => 0
    | some plan =>
      (plan.cells.filter fun c => c.firstColumn = c.lastColumn && c.firstColumn = position).foldl
        (fun width c => max width (Text.displayWidth c.text.toList)) 0

/-- Writes the cells of one body row. -/
def writeCells (number row : Nat) (columns : List Column) (cells : List Cell) : WorkbookM Unit :=
  ((List.range columns.length).zip (columns.zip cells)).forM fun (position, column, cell) => do
    let format ← useCellFormat (.ofCell cell.style column.dataFormat cell.value)
    callOn number (valueCall row position cell.value format)

/-- The warning in the first report that the rows go on in another worksheet. -/
def continuation (limit : Int) (name : String) : String :=
  "Rows beyond " ++ toString limit ++ " continue on sheet " ++ Text.quoted name ++ "."

/-- Opens a further part and warns of it in the first one's report. -/
def continuePart (options : WriteOptions) (sheet : Sheet) (header : Option HeaderPlan)
    (name : List Char) (limit : Int) (p : Progress) : WorkbookM Progress := do
  let part ← addPart options sheet header name
  let warned := match p.parts with
    | (number, report) :: rest =>
      (number, { report with warnings := report.warnings ++ [continuation limit part.2.name] }) ::
        rest
    | [] => []
  return { p with parts := warned ++ [part], rowInPart := 0 }

/-- The parts with one more row in the last one. -/
def countRow : List (Nat × Report) → List (Nat × Report)
  | [] => []
  | [(number, report)] => [(number, { report with rows := report.rows + 1 })]
  | part :: rest => part :: countRow rest

/-- Writes one body row, in a further worksheet if the last one is full. -/
def writeRow (options : WriteOptions) (sheet : Sheet) (header : Option HeaderPlan)
    (name : List Char) (p : Progress) (cells : List Cell) : WorkbookM Progress := do
  let headerRows := (header.map HeaderPlan.rows).getD 0
  let limit := options.maxRows - headerRows
  let p ← if limit ≤ p.rowInPart then continuePart options sheet header name limit p else pure p
  let number := (p.parts.getLast?.map Prod.fst).getD 0
  writeCells number (headerRows + p.rowInPart) sheet.columns cells
  return {
    parts := countRow p.parts
    rowInPart := p.rowInPart + 1
    seen := p.seen + 1
    content := if options.fit.counts p.seen then widen p.content sheet.columns cells
      else p.content }

/-- The widths of the columns. -/
def columnWidths (policy : FitPolicy) (columns : List Column) (content : List Nat) : List Int :=
  (columns.zip content).map fun (column, width) =>
    if column.isFitted then policy.clamp width else column.width

/-- Sets the widths of the columns in all parts and keeps the reports. -/
def finishSheet (options : WriteOptions) (sheet : Sheet) (p : Progress) : WorkbookM Unit := do
  let widths := columnWidths options.fit sheet.columns p.content
  p.parts.forM fun (number, _) =>
    ((List.range widths.length).zip widths).forM fun (position, width) =>
      callOn number (.width position position width)
  modify fun w => { w with reports := w.reports ++ p.parts.map Prod.snd }

/-- Writes the header and the given rows of a sheet; the sheet is finished if `complete`. -/
def writeRows (options : WriteOptions) (sheet : Sheet) (header : Option HeaderPlan)
    (name : List Char) (rows : List (List Cell)) (complete : Bool) : WorkbookM Unit := do
  let first ← addPart options sheet header name
  let start : Progress := ⟨[first], 0, 0, headerContent sheet.columns header⟩
  let p ← rows.foldlM (writeRow options sheet header name) start
  if complete then finishSheet options sheet p

end Workbook

/-! ### Writers -/

/-- A workspace and the workbook that is written from it. -/
structure Desk where
  workspace : Workspace
  workbook : Workbook

/-- Computations on a desk that may fail. What was written before a failure stays. -/
abbrev DeskM := ExceptT Failure (StateM Desk)

namespace Desk

/-- A computation on the workspace of a desk. -/
def onWorkspace {α : Type} (x : WorkspaceM α) : DeskM α := ExceptT.mk fun d =>
  let (result, workspace) := x.run.run d.workspace
  (result, { d with workspace := workspace })

/-- A computation on the workbook of a desk. -/
def onWorkbook {α : Type} (x : WorkbookM α) : DeskM α := ExceptT.mk fun d =>
  let (result, workbook) := x.run d.workbook
  (.ok result, { d with workbook := workbook })

/-- Refuses a sheet with too many columns. -/
def checkWidth (options : WriteOptions) (m : MergedSheet) : Except Failure Unit :=
  let count := m.sheet.columns.length
  if options.maxColumns < count then
    .error (.tooManyColumns m.sheet.name count options.maxColumns)
  else .ok ()

/-- The worksheet's name for a sheet, with a warning if it is not the declared one. -/
def sheetName (declared : String) : DeskM (List Char) := do
  match cleanSheetName declared.toList with
  | none => throw (.sheetName declared)
  | some name =>
    if name ≠ declared.toList then
      onWorkspace (Workspace.onCatalog
        (Catalog.warn (.sheetRenamed declared (String.ofList name))))
    return name

/-- Writes a merged sheet; rows before one that fails are written. -/
def writeSheet (options : WriteOptions) (m : MergedSheet) : DeskM Unit := do
  match checkWidth options m with
  | .error failure => throw failure
  | .ok () =>
    let name ← sheetName m.sheet.name
    let (rows, failure) ← onWorkspace (Workspace.takeAllRows m : StateM Workspace _)
    onWorkbook (Workbook.writeRows options m.sheet m.header? name rows failure.isNone)
    match failure with
    | some failure => throw failure
    | none => return ()

/-- Writes the sheets of named sources. -/
def writeSheets (options : WriteOptions) (sources : List (String × Nat)) (strict : Bool) :
    DeskM Unit := do
  let sheets ← onWorkspace (Workspace.prepareSheets sources strict)
  match sheets.forM (checkWidth options) with
  | .error failure => throw failure
  | .ok () => sheets.forM (writeSheet options)

end Desk

end SheetExport
