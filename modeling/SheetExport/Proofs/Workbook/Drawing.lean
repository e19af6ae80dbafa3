/-
**What the parts of a worksheet are made of.**

A `Mark` is a call without the number of its format, with the format itself. The number depends on
what was written before, the mark does not; so a header that is repeated has the same marks again.

* `Mark.DrawnBy formats mark call` — the call is the mark, drawn with these formats;
* `formatsAfter formats marks` — the formats after marks were drawn;
* `Workbook.Draws number marks w w'` — from `w` to `w'` the marks were drawn, in order, on one
  worksheet, and nothing else changed but that their formats were added;
* `draws_writeHeader`, `draws_writeCells`: the marks of a header and of a body row;
* `SheetCall.cells` — the cells that a call covers; `cells_headerMarks`, `cells_rowMarks`: a header
  covers all cells of its rows in order, and so does a body row.
-/

import Mathlib.Data.List.Flatten
import Mathlib.Data.List.Forall2
import SheetExport.Proofs.Sheet.HeaderTiling
import SheetExport.Workbook.Write

namespace SheetExport

/-! ### Calls and marks -/

/-- The cells that a call writes, by row and column, from left to right. -/
def SheetCall.cells : SheetCall → List (Nat × Nat)
  | .blank row column _ | .boolean row column _ _ | .number row column _ _
  | .dateTime row column _ _ | .text row column _ _ => [(row, column)]
  | .merge firstRow firstColumn lastRow lastColumn _ _ =>
    (List.range' firstRow (lastRow + 1 - firstRow)).flatMap fun row =>
      (List.range' firstColumn (lastColumn + 1 - firstColumn)).map (row, ·)
  | .freeze _ | .width _ _ _ => []

/-- The place of a call that writes cells, by row and column: that of the first one. -/
def SheetCall.place? : SheetCall → Option (Nat × Nat)
  | .blank row column _ | .boolean row column _ _ | .number row column _ _
  | .dateTime row column _ _ | .text row column _ _ | .merge row column _ _ _ _ =>
    some (row, column)
  | .freeze _ | .width _ _ _ => none

/-- A call of any format's number with a format, or one that has no format. -/
inductive Mark
  | formatted (call : Nat → SheetCall) (format : Format)
  | plain (call : SheetCall)

/-- The call draws the mark: its format has the number that it gives. -/
def Mark.DrawnBy (formats : List Format) : Mark → SheetCall → Prop
  | formatted call format, drawn => ∃ number used, formats[number]? = some used ∧
      (used = format ∨ used.same format = true) ∧ drawn = call number
  | plain call, drawn => drawn = call

/-- The format that a mark is drawn with, if it has one. -/
def Mark.format? : Mark → Option Format
  | formatted _ format => some format
  | plain _ => none

/-- The formats after marks were drawn: each mark adds its own unless an equal one was added. -/
def formatsAfter (formats : List Format) (marks : List Mark) : List Format :=
  (marks.filterMap Mark.format?).foldl addFormat formats

theorem formatsAfter_append (formats : List Format) (marks more : List Mark) :
    formatsAfter formats (marks ++ more) = formatsAfter (formatsAfter formats marks) more := by
  rw [formatsAfter, List.filterMap_append, List.foldl_append]
  rfl

theorem filterMap_format?_plain (calls : List SheetCall) :
    (calls.map Mark.plain).filterMap Mark.format? = [] := by
  rw [List.filterMap_map]
  exact List.filterMap_eq_nil_iff.mpr fun _ _ => rfl

/-- Calls without a format add none. -/
theorem formatsAfter_plain (formats : List Format) (calls : List SheetCall) :
    formatsAfter formats (calls.map .plain) = formats := by
  rw [formatsAfter, filterMap_format?_plain]
  rfl

theorem prefix_addFormat (formats : List Format) (f : Format) :
    formats <+: addFormat formats f := by
  unfold addFormat
  split
  · exact List.prefix_rfl
  · exact List.prefix_append _ _

theorem prefix_formatsAfter (formats : List Format) (marks : List Mark) :
    formats <+: formatsAfter formats marks := by
  unfold formatsAfter
  induction marks.filterMap Mark.format? generalizing formats with
  | nil => exact List.prefix_rfl
  | cons f more ih => exact (prefix_addFormat formats f).trans (ih _)

/-- Formats that are added later change no mark. -/
theorem Mark.DrawnBy.mono {formats more : List Format} {mark : Mark} {call : SheetCall}
    (drawn : mark.DrawnBy formats call) (kept : formats <+: more) : mark.DrawnBy more call := by
  cases mark with
  | plain => exact drawn
  | formatted f format =>
    obtain ⟨number, used, found, equal, same⟩ := drawn
    obtain ⟨added, rfl⟩ := kept
    have below : number < formats.length := (List.getElem?_eq_some_iff.mp found).1
    exact ⟨number, used, by rw [List.getElem?_append_left below, found], equal, same⟩

/-- The worksheet after several further calls. -/
def Worksheet.extend (ws : Worksheet) (calls : List SheetCall) : Worksheet :=
  { ws with calls := ws.calls ++ calls.toArray }

theorem Worksheet.extend_extend (ws : Worksheet) (calls more : List SheetCall) :
    (ws.extend calls).extend more = ws.extend (calls ++ more) := by
  simp [extend]

@[simp] theorem Worksheet.extend_name (ws : Worksheet) (calls : List SheetCall) :
    (ws.extend calls).name = ws.name := rfl

@[simp] theorem Worksheet.toList_calls_extend (ws : Worksheet) (calls : List SheetCall) :
    (ws.extend calls).calls.toList = ws.calls.toList ++ calls := by
  simp [extend]

namespace Workbook

/-! ### Drawing -/

/-- Marks were drawn on the worksheet of a number, and nothing changed besides but that their
formats were added. -/
structure Draws (number : Nat) (marks : List Mark) (w w' : Workbook) : Prop where
  added : w'.formats = formatsAfter w.formats marks
  names : w'.names = w.names
  reports : w'.reports = w.reports
  worksheets : ∃ calls, List.Forall₂ (Mark.DrawnBy w'.formats) marks calls ∧
    w'.worksheets.toList = w.worksheets.toList.modify number (·.extend calls)

section Drawing

variable {number : Nat} {marks more : List Mark} {w w' w'' : Workbook} {α : Type}

theorem modify_extend_nil (sheets : List Worksheet) (number : Nat) :
    sheets.modify number (·.extend []) = sheets := by
  have same : (fun ws : Worksheet => ws.extend []) = id := by
    funext ws
    simp [Worksheet.extend]
  rw [same, List.modify_id]

theorem Draws.formats (draws : Draws number marks w w') : w.formats <+: w'.formats :=
  draws.added ▸ prefix_formatsAfter _ _

theorem Draws.refl (number : Nat) (w : Workbook) : Draws number [] w w :=
  ⟨rfl, rfl, rfl, [], .nil, (modify_extend_nil _ _).symm⟩

theorem Draws.trans (first : Draws number marks w w') (second : Draws number more w' w'') :
    Draws number (marks ++ more) w w'' := by
  obtain ⟨calls, drawn, worksheets⟩ := first.worksheets
  obtain ⟨calls', drawn', worksheets'⟩ := second.worksheets
  refine ⟨?_, second.names.trans first.names, second.reports.trans first.reports,
    calls ++ calls', ?_, ?_⟩
  · rw [second.added, first.added, formatsAfter_append]
  · exact List.rel_append (drawn.imp fun _ _ => (·.mono second.formats)) drawn'
  · rw [worksheets', worksheets, List.modify_modify_eq]
    congr 1
    funext ws
    exact ws.extend_extend calls calls'

/-- A loop draws the marks of its steps. -/
theorem draws_forM {items : List α} {step : α → WorkbookM Unit} {marksOf : α → List Mark}
    (draws : ∀ a ∈ items, ∀ w, Draws number (marksOf a) w ((step a).run w).2) (w : Workbook) :
    Draws number (items.flatMap marksOf) w ((items.forM step).run w).2 := by
  induction items generalizing w with
  | nil => exact .refl number w
  | cons a items ih =>
    exact (draws a List.mem_cons_self w).trans
      (ih (fun b member => draws b (List.mem_cons_of_mem _ member)) _)

theorem toList_callOn (number : Nat) (call : SheetCall) (w : Workbook) :
    ((callOn number call).run w).2.worksheets.toList =
      w.worksheets.toList.modify number (·.extend [call]) := by
  have same : (fun ws : Worksheet => ws.push call) = (·.extend [call]) := by
    funext ws
    simp [Worksheet.push, Worksheet.extend]
  show (w.worksheets.modify number (·.push call)).toList = _
  rw [Array.toList_modify, same]

theorem draws_callOn (number : Nat) (call : SheetCall) (w : Workbook) :
    Draws number [.plain call] w ((callOn number call).run w).2 :=
  ⟨rfl, rfl, rfl, [call], .cons rfl .nil, toList_callOn number call w⟩

/-- A call with the number of a format draws the call's mark with that format, if the number is that
of an equal one and no other format was added. -/
theorem draws_of_used {format : Format} {use : WorkbookM Nat} {place : Nat} {table : FormatTable}
    (call : Nat → SheetCall) (run : use.run w = (place, { w with table := table }))
    (added : table.added = addFormat w.formats format)
    (found : ∃ used, table.added[place]? = some used ∧ used.same format = true) :
    Draws number [.formatted call format] w
      ((do callOn number (call (← use)) : WorkbookM Unit).run w).2 := by
  obtain ⟨used, isAdded, same⟩ := found
  have ran : ((do callOn number (call (← use)) : WorkbookM Unit).run w) =
      (callOn number (call place)).run { w with table := table } := by
    rw [StateT.run_bind, run]
    rfl
  rw [ran]
  exact ⟨added, rfl, rfl, [call place], .cons ⟨place, used, isAdded, .inr same, rfl⟩ .nil,
    toList_callOn _ _ _⟩

/-- A call with a format draws the call's mark with that format. -/
theorem draws_formatted (number : Nat) (format : Format) (call : Nat → SheetCall) (w : Workbook) :
    Draws number [.formatted call format] w
      ((do callOn number (call (← useFormat format)) : WorkbookM Unit).run w).2 :=
  draws_of_used call rfl (w.table.added_use format) (w.table.getElem?_use format)

/-- A call with the format of a body cell draws the call's mark with the format of its key, whether
the number was kept or not. -/
theorem draws_cellFormatted (number : Nat) (k : CellFormatKey) (call : Nat → SheetCall)
    (w : Workbook) :
    Draws number [.formatted call k.format] w
      ((do callOn number (call (← useCellFormat k)) : WorkbookM Unit).run w).2 :=
  draws_of_used call rfl (w.table.added_useCell k) (w.table.getElem?_useCell k)

end Drawing

/-! ### Marks of headers and rows -/

/-- The format of a header cell alone, with the borders of the plan. -/
def borderedFormat (plan : HeaderPlan) (row : Nat) (c : HeaderCell) : Format :=
  match plan.borders.find? fun b => b.1 = row && b.2.1 = c.firstColumn with
  | some (_, _, border) => c.style.spec.format.change [(.top, some (.int border.top)),
      (.bottom, some (.int border.bottom)), (.left, some (.int border.left)),
      (.right, some (.int border.right))]
  | none => c.style.spec.format

/-- What a header cell is drawn as in one of its rows. -/
def headerMark (plan : HeaderPlan) (row : Nat) (c : HeaderCell) : Mark :=
  if c.firstColumn ≠ c.lastColumn then
    .formatted (.merge row c.firstColumn row c.lastColumn c.text) c.style.spec.format
  else if row = c.firstRow ∧ c.text ≠ "" then
    .formatted (.text row c.firstColumn c.text) (borderedFormat plan row c)
  else .formatted (.blank row c.firstColumn) (borderedFormat plan row c)

/-- What a header is drawn as. -/
def headerMarks (plan : HeaderPlan) : List Mark :=
  (List.range plan.rows).flatMap fun row => (plan.rowCells row).map (headerMark plan row)

/-- What a cell of a body row is drawn as. -/
def cellMark (row position : Nat) (column : Column) (cell : Cell) : Mark :=
  .formatted (valueCall row position cell.value)
    (cellFormat cell.style.spec.format column.dataFormat cell.value)

/-- What a body row is drawn as. -/
def rowMarks (columns : List Column) (row : Nat) (cells : List Cell) : List Mark :=
  ((List.range columns.length).zip (columns.zip cells)).map fun (position, column, cell) =>
    cellMark row position column cell

/-- What body rows from one row on are drawn as. -/
def bodyMarks (columns : List Column) (firstRow : Nat) (rows : List (List Cell)) : List Mark :=
  (rows.zipIdx firstRow).flatMap fun (cells, row) => rowMarks columns row cells

theorem bodyMarks_append (columns : List Column) (firstRow : Nat) (rows more : List (List Cell)) :
    bodyMarks columns firstRow (rows ++ more) =
      bodyMarks columns firstRow rows ++ bodyMarks columns (firstRow + rows.length) more := by
  rw [bodyMarks, List.zipIdx_append, List.flatMap_append]
  rfl

theorem draws_writeHeaderCell (number : Nat) (plan : HeaderPlan) (row : Nat) (c : HeaderCell)
    (w : Workbook) :
    Draws number [headerMark plan row c] w ((writeHeaderCell number plan row c).run w).2 := by
  unfold writeHeaderCell headerMark
  by_cases wide : c.firstColumn ≠ c.lastColumn
  · rw [if_pos wide, if_pos wide]
    exact draws_formatted _ _ _ _
  · rw [if_neg wide, if_neg wide]
    by_cases shows : row = c.firstRow ∧ c.text ≠ ""
    · simp only [if_pos shows]
      exact draws_formatted number (borderedFormat plan row c) _ w
    · simp only [if_neg shows]
      exact draws_formatted number (borderedFormat plan row c) _ w

/-- **Writing a header** draws its marks. -/
theorem draws_writeHeader (number : Nat) (plan : HeaderPlan) (w : Workbook) :
    Draws number (headerMarks plan) w ((writeHeader number plan).run w).2 := by
  refine draws_forM (fun row _ w => ?_) w
  rw [List.map_eq_flatMap]
  exact draws_forM (fun c _ w => draws_writeHeaderCell number plan row c w) w

/-- **Writing a body row** draws its marks. -/
theorem draws_writeCells (number row : Nat) (columns : List Column) (cells : List Cell)
    (w : Workbook) :
    Draws number (rowMarks columns row cells) w
      ((writeCells number row columns cells).run w).2 := by
  rw [rowMarks, List.map_eq_flatMap]
  refine draws_forM (fun (position, column, cell) _ w => ?_) w
  show Draws number [cellMark row position column cell] w _
  rw [cellMark, ← format_ofCell]
  exact draws_cellFormatted number _ _ w

/-! ### Cells of headers and rows -/

theorem forall₂_append_left {α β : Type} {R : α → β → Prop} {as more : List α} {bs : List β}
    (related : List.Forall₂ R (as ++ more) bs) :
    List.Forall₂ R as (bs.take as.length) ∧ List.Forall₂ R more (bs.drop as.length) := by
  induction as generalizing bs with
  | nil => exact ⟨.nil, related⟩
  | cons a as ih =>
    obtain ⟨b, rest, first, others, rfl⟩ := List.forall₂_cons_left_iff.mp related
    exact ⟨.cons first (ih others).1, (ih others).2⟩

/-- All cells of rows from one row on, row by row and each from left to right. -/
def grid (firstRow rows columns : Nat) : List (Nat × Nat) :=
  (List.range' firstRow rows).flatMap fun row => (List.range columns).map (row, ·)

theorem grid_append (rows more columns : Nat) :
    grid 0 rows columns ++ grid rows more columns = grid 0 (rows + more) columns := by
  have joined := List.range'_append_1 (s := 0) (m := rows) (n := more)
  rw [Nat.zero_add] at joined
  rw [grid, grid, ← List.flatMap_append, joined, grid]

/-- Further to the right in the same row, or further down. -/
def Precedes (p q : Nat × Nat) : Prop := p.1 < q.1 ∨ p.1 = q.1 ∧ p.2 < q.2

/-- The cells of a grid stand in strictly ascending order. -/
theorem pairwise_grid (firstRow rows columns : Nat) :
    (grid firstRow rows columns).Pairwise Precedes := by
  rw [grid, List.pairwise_flatMap]
  constructor
  · intro row _
    exact List.pairwise_map.mpr
      ((List.pairwise_lt_range).imp fun before => Or.inr ⟨rfl, before⟩)
  · refine (List.pairwise_lt_range').imp fun before p inRow q inLater => ?_
    obtain ⟨_, _, rfl⟩ := List.mem_map.mp inRow
    obtain ⟨_, _, rfl⟩ := List.mem_map.mp inLater
    exact Or.inl before

/-- Calls that draw the marks cover these cells in order, each at the place of its first one. -/
def Covers (marks : List Mark) (cells : List (Nat × Nat)) : Prop :=
  ∀ formats calls, List.Forall₂ (Mark.DrawnBy formats) marks calls →
    calls.flatMap SheetCall.cells = cells ∧ (calls.filterMap SheetCall.place?).Sublist cells

theorem covers_nil : Covers [] [] := by
  rintro formats _ ⟨⟩
  exact ⟨rfl, .refl _⟩

theorem Covers.append {marks more : List Mark} {cells others : List (Nat × Nat)}
    (first : Covers marks cells) (second : Covers more others) :
    Covers (marks ++ more) (cells ++ others) := by
  intro formats calls drawn
  obtain ⟨drawnFirst, drawnSecond⟩ := forall₂_append_left drawn
  obtain ⟨covers, places⟩ := first formats _ drawnFirst
  obtain ⟨covers', places'⟩ := second formats _ drawnSecond
  constructor
  · rw [← List.take_append_drop marks.length calls, List.flatMap_append, covers, covers']
  · rw [← List.take_append_drop marks.length calls, List.filterMap_append]
    exact places.append places'

theorem covers_flatMap {α : Type} {items : List α} {marksOf : α → List Mark}
    {cellsOf : α → List (Nat × Nat)} (covers : ∀ a ∈ items, Covers (marksOf a) (cellsOf a)) :
    Covers (items.flatMap marksOf) (items.flatMap cellsOf) := by
  induction items with
  | nil => exact covers_nil
  | cons a items ih =>
    rw [List.flatMap_cons, List.flatMap_cons]
    exact (covers a List.mem_cons_self).append
      (ih fun b member => covers b (List.mem_cons_of_mem _ member))

/-- A mark with a format covers what its call covers, whatever number the format gets. -/
theorem covers_formatted {call : Nat → SheetCall} {format : Format} {cells : List (Nat × Nat)}
    (covers : ∀ n, (call n).cells = cells ∧ (call n).place? = cells.head?) :
    Covers [.formatted call format] cells := by
  rintro formats calls (_ | ⟨⟨n, _, _, _, rfl⟩, ⟨⟩⟩)
  obtain ⟨same, place⟩ := covers n
  constructor
  · rw [List.flatMap_cons, List.flatMap_nil, List.append_nil, same]
  · rw [List.filterMap_cons, place]
    cases cells with
    | nil => exact .refl _
    | cons p cells => exact List.singleton_sublist.mpr List.mem_cons_self

theorem covers_cellMark (row position : Nat) (column : Column) (cell : Cell) :
    Covers [cellMark row position column cell] [(row, position)] := by
  refine covers_formatted fun n => ?_
  cases cell.value <;> exact ⟨rfl, rfl⟩

theorem covers_headerMark (plan : HeaderPlan) (row : Nat) {c : HeaderCell}
    (forward : c.firstColumn ≤ c.lastColumn) :
    Covers [headerMark plan row c] (c.span.map (row, ·)) := by
  have starts : c.span =
      c.firstColumn :: List.range' (c.firstColumn + 1) (c.lastColumn - c.firstColumn) := by
    have count : c.lastColumn + 1 - c.firstColumn = c.lastColumn - c.firstColumn + 1 := by omega
    rw [HeaderCell.span, count, List.range'_succ]
  have single : c.firstColumn = c.lastColumn → c.span.map (row, ·) = [(row, c.firstColumn)] := by
    intro same
    rw [starts, same, Nat.sub_self]
    rfl
  unfold headerMark
  split
  · refine covers_formatted fun n => ⟨?_, ?_⟩
    · simp [SheetCall.cells, HeaderCell.span]
    · rw [starts]
      rfl
  · rename_i narrow
    rw [single (Decidable.not_not.mp narrow)]
    split <;> exact covers_formatted fun n => ⟨rfl, rfl⟩

/-- **A header covers its rows** once, in order. -/
theorem covers_headerMarks (columns : List Column) :
    Covers (headerMarks (planHeader columns))
      (grid 0 (planHeader columns).rows columns.length) := by
  rw [grid, ← List.range_eq_range']
  refine covers_flatMap fun row isRow => ?_
  have tiles := covers_rowCells (List.mem_range.mp isRow)
  rw [← tiles, List.map_flatMap, List.map_eq_flatMap]
  refine covers_flatMap fun c member => covers_headerMark _ _ ?_
  have inRow : c ∈ ((planHeader columns).cells.filter (HeaderCell.inRow row)) :=
    List.mem_mergeSort.mp member
  exact forward_of_mem (List.mem_filter.mp inRow).1

/-- **A body row covers its row** once, in order. -/
theorem covers_rowMarks {columns : List Column} {cells : List Cell} (row : Nat)
    (length : cells.length = columns.length) :
    Covers (rowMarks columns row cells) ((List.range columns.length).map (row, ·)) := by
  have positions : ((List.range columns.length).zip (columns.zip cells)).map Prod.fst =
      List.range columns.length := List.map_fst_zip (by simp [length])
  rw [rowMarks, List.map_eq_flatMap]
  conv =>
    arg 2
    rw [← positions, List.map_map, List.map_eq_flatMap]
  exact covers_flatMap fun _ _ => covers_cellMark _ _ _ _

theorem covers_bodyMarks {columns : List Column} {rows : List (List Cell)} (firstRow : Nat)
    (lengths : ∀ cells ∈ rows, cells.length = columns.length) :
    Covers (bodyMarks columns firstRow rows) (grid firstRow rows.length columns.length) := by
  have numbers : (rows.zipIdx firstRow).map Prod.snd = List.range' firstRow rows.length :=
    List.zipIdx_map_snd firstRow rows
  rw [grid, ← numbers, List.flatMap_map]
  refine covers_flatMap fun p member => covers_rowMarks _ (lengths _ ?_)
  exact (List.mem_zipIdx member).2.2 ▸ List.getElem_mem _

end Workbook

end SheetExport
