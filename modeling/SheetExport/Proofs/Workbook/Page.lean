/-
**Worksheets with the rows that are on them.**

* `Page` — a worksheet with its body rows; `Page.Drawn` says that its calls draw the header of a
  sheet and these rows; a further row is drawn behind the others (`Page.Drawn.row`), and the calls
  that set the widths at the end (`Page.Drawn.extend`);
* `reportsOf` — the reports of the pages of a sheet;
* `covers_of_drawn`: the calls of a page cover all cells of its rows once, in ascending order.
-/

import SheetExport.Proofs.Workbook.Drawing

namespace SheetExport

open Workbook

/-- A worksheet with the body rows on it. -/
structure Page where
  worksheet : Worksheet
  rows : List (List Cell)

/-- How many rows a header takes. -/
def headerRows (header : Option HeaderPlan) : Nat := (header.map HeaderPlan.rows).getD 0

/-- How many body rows a worksheet can have. -/
def pageLimit (options : WriteOptions) (header : Option HeaderPlan) : Int :=
  options.maxRows - headerRows header

/-- What the top of a page is drawn as: the header, and that it is frozen. -/
def topMarks (options : WriteOptions) : Option HeaderPlan → List Mark
  | some plan => headerMarks plan ++
      if options.freezeHeader then [.plain (.freeze plan.rows)] else []
  | none => []

/-- The calls that set the widths of columns. -/
def widthCalls (widths : List Int) : List SheetCall :=
  ((List.range widths.length).zip widths).map fun (position, width) =>
    .width position position width

/-- The report of a page. -/
def Page.report (sheet : Sheet) (header : Option HeaderPlan) (warnings : List String)
    (page : Page) : Report :=
  ⟨page.worksheet.name, sheet.name, page.rows.length, sheet.columns.length, headerRows header,
    warnings⟩

/-- The reports of all pages of a sheet; the first one warns of each further page. -/
def reportsOf (sheet : Sheet) (header : Option HeaderPlan) (limit : Int) : List Page → List Report
  | [] => []
  | first :: others =>
    first.report sheet header
        (others.map fun page => continuation limit page.worksheet.name) ::
      others.map (Page.report sheet header [])

/-- What a page is drawn as: the top, and then its rows. -/
def pageMarks (options : WriteOptions) (sheet : Sheet) (header : Option HeaderPlan) (page : Page) :
    List Mark :=
  topMarks options header ++ bodyMarks sheet.columns (headerRows header) page.rows

/-- The page's worksheet has the header, the page's rows, and then some calls without format. -/
def Page.Drawn (options : WriteOptions) (sheet : Sheet) (header : Option HeaderPlan)
    (formats : List Format) (more : List SheetCall) (page : Page) : Prop :=
  List.Forall₂ (Mark.DrawnBy formats)
    (topMarks options header ++
      bodyMarks sheet.columns (headerRows header) page.rows ++ more.map .plain)
    page.worksheet.calls.toList

section Pages

variable {options : WriteOptions} {sheet : Sheet} {header : Option HeaderPlan}

/-! ### Calls of a page -/

theorem eq_of_forall₂_plain {formats : List Format} {calls drawn : List SheetCall}
    (same : List.Forall₂ (Mark.DrawnBy formats) (calls.map .plain) drawn) : drawn = calls := by
  rw [List.forall₂_map_left_iff] at same
  induction same with
  | nil => rfl
  | cons first _ ih => rw [first, ih]

theorem Page.Drawn.mono {formats more : List Format} {calls : List SheetCall} {page : Page}
    (drawn : page.Drawn options sheet header formats calls) (kept : formats <+: more) :
    page.Drawn options sheet header more calls :=
  List.Forall₂.imp (fun _ _ => (·.mono kept)) drawn

theorem pageMarks_nil (worksheet : Worksheet) :
    pageMarks options sheet header ⟨worksheet, []⟩ = topMarks options header := List.append_nil _

/-- **What holds of every mark of a page**: of the calls that write a value or merge cells, whatever
their format is, and of the one that freezes the header. -/
theorem forall_mem_pageMarks {P : Mark → Prop}
    (frozen : ∀ rows, P (.plain (.freeze rows)))
    (merged : ∀ firstRow firstColumn lastRow lastColumn s f,
      P (.formatted (.merge firstRow firstColumn lastRow lastColumn s) f))
    (value : ∀ row position v f, P (.formatted (valueCall row position v) f)) (page : Page) :
    ∀ mark ∈ pageMarks options sheet header page, P mark := by
  refine List.forall_mem_append.mpr ⟨?_, ?_⟩
  · cases header with
    | none => exact List.forall_mem_nil _
    | some plan =>
      refine List.forall_mem_append.mpr ⟨?_, ?_⟩
      · intro mark ofHeader
        obtain ⟨row, _, inRow⟩ := List.mem_flatMap.mp ofHeader
        obtain ⟨cell, _, rfl⟩ := List.mem_map.mp inRow
        unfold headerMark
        split
        · exact merged ..
        · split
          · exact value row cell.firstColumn (.text cell.text) _
          · exact value row cell.firstColumn .null _
      · split
        · exact List.forall_mem_singleton.mpr (frozen plan.rows)
        · exact List.forall_mem_nil _
  · intro mark ofBody
    obtain ⟨⟨cells, row⟩, _, inRow⟩ := List.mem_flatMap.mp ofBody
    obtain ⟨⟨position, column, cell⟩, _, rfl⟩ := List.mem_map.mp inRow
    exact value row position cell.value _

/-- A page with one more row is drawn as before, and then the row. -/
theorem pageMarks_row (page : Page) (worksheet : Worksheet) (cells : List Cell) :
    pageMarks options sheet header ⟨worksheet, page.rows ++ [cells]⟩ =
      pageMarks options sheet header page ++
        rowMarks sheet.columns (headerRows header + page.rows.length) cells := by
  rw [pageMarks, bodyMarks_append, pageMarks, List.append_assoc]
  simp [bodyMarks]

/-- A page with one more row. -/
theorem Page.Drawn.row {formats : List Format} {page : Page} {cells : List Cell}
    {calls : List SheetCall} (drawn : page.Drawn options sheet header formats [])
    (row : List.Forall₂ (Mark.DrawnBy formats)
      (rowMarks sheet.columns (headerRows header + page.rows.length) cells) calls) :
    (Page.mk (page.worksheet.extend calls) (page.rows ++ [cells])).Drawn options sheet header
      formats [] := by
  unfold Page.Drawn at drawn ⊢
  rw [List.map_nil, List.append_nil] at drawn ⊢
  have marks : pageMarks options sheet header ⟨page.worksheet, page.rows ++ [cells]⟩ = _ :=
    pageMarks_row page _ cells
  rw [pageMarks] at marks
  rw [Worksheet.toList_calls_extend, marks]
  exact List.rel_append drawn row

/-- A page whose worksheet got further calls. -/
def Page.extend (page : Page) (calls : List SheetCall) : Page :=
  ⟨page.worksheet.extend calls, page.rows⟩

theorem Page.Drawn.extend {formats : List Format} {page : Page}
    (drawn : page.Drawn options sheet header formats []) (calls : List SheetCall) :
    (Page.extend page calls).Drawn options sheet header formats calls := by
  have same : List.Forall₂ (Mark.DrawnBy formats) (calls.map .plain) calls := by
    rw [List.forall₂_map_left_iff]
    exact List.forall₂_same.mpr fun _ _ => rfl
  unfold Page.Drawn at drawn ⊢
  rw [List.map_nil, List.append_nil] at drawn
  rw [Page.extend, Worksheet.toList_calls_extend]
  exact List.rel_append drawn same

/-! ### Reports -/

/-- Of the reports only the last one depends on the rows of the last page. -/
theorem exists_reportsOf_append (sheet : Sheet) (header : Option HeaderPlan) (limit : Int)
    (closed : List Page) (name : String) :
    ∃ first, ∀ last : Page, last.worksheet.name = name →
      reportsOf sheet header limit (closed ++ [last]) = first ++ [last.report sheet header []] := by
  cases closed with
  | nil => exact ⟨[], fun last _ => rfl⟩
  | cons page closed =>
    refine ⟨page.report sheet header ((closed.map fun other =>
        continuation limit other.worksheet.name) ++ [continuation limit name]) ::
      closed.map (Page.report sheet header []), fun last named => ?_⟩
    rw [List.cons_append, reportsOf, List.map_append, List.map_append, ← named]
    rfl

theorem reportsOf_extend (limit : Int) (pages : List Page) (calls : List SheetCall) :
    reportsOf sheet header limit (pages.map (Page.extend · calls)) =
      reportsOf sheet header limit pages := by
  cases pages with
  | nil => rfl
  | cons page pages =>
    rw [List.map_cons, reportsOf, reportsOf, List.map_map, List.map_map]
    rfl

/-! ### Cells of a page -/

theorem covers_plain {calls : List SheetCall} (silent : ∀ call ∈ calls, call.cells = [] ∧
    call.place? = none) : Covers (calls.map .plain) [] := by
  intro formats drawn same
  rw [eq_of_forall₂_plain same]
  exact ⟨List.flatMap_eq_nil_iff.mpr fun call member => (silent call member).1, by
    rw [List.filterMap_eq_nil_iff.mpr fun call member => (silent call member).2]⟩

/-- The top of a page covers the rows of the header. -/
theorem covers_topMarks (planned : ∀ plan, header = some plan → plan = planHeader sheet.columns) :
    Covers (topMarks options header) (grid 0 (headerRows header) sheet.columns.length) := by
  cases header with
  | none => exact covers_nil
  | some plan =>
    rw [planned plan rfl, ← List.append_nil (grid _ _ _)]
    refine (covers_headerMarks sheet.columns).append ?_
    split
    · have silent : ∀ call ∈ [SheetCall.freeze (planHeader sheet.columns).rows],
          call.cells = [] ∧ call.place? = none := by
        simp [SheetCall.cells, SheetCall.place?]
      exact covers_plain silent
    · exact covers_nil

/-- **A page covers its rows** once, in order. -/
theorem covers_of_drawn {formats : List Format} {widths : List Int} {page : Page}
    (planned : ∀ plan, header = some plan → plan = planHeader sheet.columns)
    (lengths : ∀ cells ∈ page.rows, cells.length = sheet.columns.length)
    (drawn : page.Drawn options sheet header formats (widthCalls widths)) :
    page.worksheet.calls.toList.flatMap SheetCall.cells =
        grid 0 (headerRows header + page.rows.length) sheet.columns.length ∧
      (page.worksheet.calls.toList.filterMap SheetCall.place?).Pairwise Precedes := by
  have silent : Covers ((widthCalls widths).map .plain) [] := by
    refine covers_plain fun call member => ?_
    obtain ⟨_, _, rfl⟩ := List.mem_map.mp member
    exact ⟨rfl, rfl⟩
  have top : Covers (topMarks options header) _ := covers_topMarks planned
  have covers := (top.append (covers_bodyMarks (headerRows header) lengths)).append silent
  rw [List.append_nil, grid_append] at covers
  obtain ⟨cells, places⟩ := covers _ _ drawn
  exact ⟨cells, (pairwise_grid _ _ _).sublist places⟩

end Pages

end SheetExport
