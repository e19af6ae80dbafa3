/-
**The widths of columns.**

* `ContentWidth header rows c n` — something that column `c` has is of width `n`: nothing at all, a
  header cell over it alone, or its value in one of the rows;
* `FitPolicy.counted` — the body rows that count;
* `Measured header rows columns content` — for every fitted column the greatest of these widths: so
  it is over the header (`measured_headerContent`), behind one more row (`Measured.widen`), and over
  all rows that count (`measured_contentWidths`);
* `FitPolicy.clamp_bounds`: a fitted width is within what a worksheet can have;
* `HasWidths` — the calls of a worksheet set one width for each column, from left to right;
* `Desk.writeSheet_widths`: all worksheets of a sheet have the columns' own widths, or those that
  fit them to their content.
-/

import Mathlib.Data.List.Induction
import Mathlib.Order.Bounds.Basic
import SheetExport.Proofs.Workbook.Paging

namespace SheetExport

/-! ### The content of a column -/

/-- Something that a column has is of a width. -/
inductive ContentWidth (header : Option HeaderPlan) (rows : List (List Cell)) (c : Nat) : Nat → Prop
  | nothing : ContentWidth header rows c 0
  | header {plan : HeaderPlan} {cell : HeaderCell} (planned : header = some plan)
      (member : cell ∈ plan.cells) (first : cell.firstColumn = c) (last : cell.lastColumn = c) :
      ContentWidth header rows c (CellValue.text cell.text).width
  | value {row : List Cell} {cell : Cell} (member : row ∈ rows) (found : row[c]? = some cell) :
      ContentWidth header rows c cell.value.width

/-- The body rows that count: the first ones up to the limit, or all. -/
def FitPolicy.counted (p : FitPolicy) (rows : List (List Cell)) : List (List Cell) :=
  match p.rowLimit with
  | none => rows
  | some limit => rows.take limit.toNat

section Content

variable {header : Option HeaderPlan} {rows : List (List Cell)} {c : Nat} {cells : List Cell}

/-- With one more row, a column has the value of that as well, if the row is long enough. -/
theorem contentWidth_concat_iff {n : Nat} :
    ContentWidth header (rows ++ [cells]) c n ↔
      (∃ cell, cells[c]? = some cell ∧ n = cell.value.width) ∨ ContentWidth header rows c n := by
  constructor
  · intro width
    cases width with
    | nothing => exact Or.inr .nothing
    | header planned member first last => exact Or.inr (.header planned member first last)
    | @value row cell member found =>
      rcases List.mem_append.mp member with before | isLast
      · exact Or.inr (.value before found)
      · exact Or.inl ⟨cell, List.mem_singleton.mp isLast ▸ found, rfl⟩
  · rintro (⟨cell, found, rfl⟩ | width)
    · exact .value (List.mem_append_right _ List.mem_cons_self) found
    · cases width with
      | nothing => exact .nothing
      | header planned member first last => exact .header planned member first last
      | value member found => exact .value (List.mem_append_left _ member) found

theorem setOf_contentWidth_concat {cell : Cell} (found : cells[c]? = some cell) :
    {n | ContentWidth header (rows ++ [cells]) c n} =
      insert cell.value.width {n | ContentWidth header rows c n} := by
  ext n
  simp only [Set.mem_insert_iff, Set.mem_ofPred_eq, contentWidth_concat_iff, found,
    Option.some.injEq, exists_eq_left']

theorem setOf_contentWidth_short (short : cells[c]? = none) :
    {n | ContentWidth header (rows ++ [cells]) c n} = {n | ContentWidth header rows c n} := by
  ext n
  simp only [Set.mem_ofPred_eq, contentWidth_concat_iff, short, reduceCtorEq, false_and,
    exists_false, false_or]

end Content

/-- The greatest of a number and those of a list. -/
theorem isGreatest_foldl_max {α : Type} (f : α → Nat) (as : List α) (start : Nat) :
    IsGreatest {n | n = start ∨ ∃ a ∈ as, n = f a} (as.foldl (fun n a => max n (f a)) start) := by
  induction as generalizing start with
  | nil => simp [isGreatest_singleton]
  | cons a as ih =>
    obtain ⟨member, bound⟩ := ih (max start (f a))
    rw [List.foldl_cons]
    constructor
    · rcases member with isStart | ⟨b, inRest, isB⟩
      · rcases max_choice start (f a) with same | same
        · exact Or.inl (isStart.trans same)
        · exact Or.inr ⟨a, List.mem_cons_self, isStart.trans same⟩
      · exact Or.inr ⟨b, List.mem_cons_of_mem _ inRest, isB⟩
    · have above := bound (Or.inl rfl)
      rintro n (rfl | ⟨b, isMember, rfl⟩)
      · exact le_trans (le_max_left _ _) above
      · rcases List.mem_cons.mp isMember with rfl | inRest
        · exact le_trans (le_max_right _ _) above
        · exact bound (Or.inr ⟨b, inRest, rfl⟩)

/-! ### Measuring -/

namespace Workbook

/-- For each fitted column the greatest width of what it has. -/
structure Measured (header : Option HeaderPlan) (rows : List (List Cell)) (columns : List Column)
    (content : List Nat) : Prop where
  length : content.length = columns.length
  greatest : ∀ c column, columns[c]? = some column → column.isFitted = true →
    ∃ width, content[c]? = some width ∧ IsGreatest {n | ContentWidth header rows c n} width

/-- Before the first body row, the header is measured. -/
theorem measured_headerContent (columns : List Column) (header : Option HeaderPlan) :
    Measured header [] columns (headerContent columns header) := by
  refine ⟨by rw [headerContent, List.length_map, List.length_range], fun c column isColumn _ => ?_⟩
  have below : c < columns.length := (List.getElem?_eq_some_iff.mp isColumn).1
  rw [headerContent, List.getElem?_map, List.getElem?_range below]
  refine ⟨_, rfl, ?_⟩
  cases header with
  | none =>
    refine ⟨.nothing, fun n width => ?_⟩
    cases width with
    | nothing => exact le_refl _
    | header planned => cases planned
    | value member => cases member
  | some plan =>
    show IsGreatest _ ((plan.cells.filter fun cell =>
      cell.firstColumn = cell.lastColumn && cell.firstColumn = c).foldl
        (fun n cell => max n (Text.displayWidth cell.text.toList)) 0)
    obtain ⟨member, bound⟩ := isGreatest_foldl_max
      (fun cell : HeaderCell => Text.displayWidth cell.text.toList)
      (plan.cells.filter fun cell => cell.firstColumn = cell.lastColumn && cell.firstColumn = c) 0
    constructor
    · rcases member with isZero | ⟨cell, inCells, isWidth⟩
      · rw [isZero]
        exact .nothing
      · obtain ⟨inPlan, alone⟩ := List.mem_filter.mp inCells
        rw [Bool.and_eq_true, decide_eq_true_eq, decide_eq_true_eq] at alone
        rw [isWidth]
        exact .header rfl inPlan alone.2 (alone.1 ▸ alone.2)
    · intro n width
      cases width with
      | nothing => exact Nat.zero_le _
      | value member => cases member
      | header planned inPlan first last =>
        cases planned
        refine bound (Or.inr ⟨_, List.mem_filter.mpr ⟨inPlan, ?_⟩, rfl⟩)
        simp [first, last]

theorem length_widen (content : List Nat) (columns : List Column) (cells : List Cell) :
    (widen content columns cells).length = content.length := by
  fun_induction widen content columns cells with
  | case1 width content column columns cell cells ih => exact congrArg (· + 1) ih
  | case2 => rfl

theorem getElem?_widen {content : List Nat} {columns : List Column} {cells : List Cell} {c : Nat}
    {column : Column} (isColumn : columns[c]? = some column) (fitted : column.isFitted = true) :
    (widen content columns cells)[c]? = content[c]?.map fun width =>
      match cells[c]? with
      | some cell => max width cell.value.width
      | none => width := by
  fun_induction widen content columns cells generalizing c with
  | case1 width content first columns cell cells ih =>
    cases c with
    | zero =>
      cases isColumn
      simp [fitted]
    | succ c => exact ih isColumn
  | case2 content columns cells short =>
    cases content with
    | nil => rfl
    | cons width content =>
      cases columns with
      | nil => cases isColumn
      | cons first columns =>
        cases cells with
        | nil => simp
        | cons cell cells => exact absurd rfl (short width content first columns cell cells rfl rfl)

/-- **One more row** is measured. -/
theorem Measured.widen {header : Option HeaderPlan} {rows : List (List Cell)}
    {columns : List Column} {content : List Nat} (measured : Measured header rows columns content)
    (cells : List Cell) :
    Measured header (rows ++ [cells]) columns (widen content columns cells) := by
  refine ⟨(length_widen _ _ _).trans measured.length, fun c column isColumn fitted => ?_⟩
  obtain ⟨width, isWidth, greatest⟩ := measured.greatest c column isColumn fitted
  rw [getElem?_widen isColumn fitted, isWidth]
  refine ⟨_, rfl, ?_⟩
  cases found : cells[c]? with
  | none =>
    rw [setOf_contentWidth_short found]
    exact greatest
  | some cell =>
    rw [setOf_contentWidth_concat found]
    show IsGreatest _ (max width cell.value.width)
    rw [max_comm]
    exact greatest.insert _

/-- Rows are measured one by one while they count. -/
theorem foldl_measureRow (fit : FitPolicy) (columns : List Column) (rows : List (List Cell))
    (content : List Nat) :
    rows.foldl (measureRow fit columns) (0, content) =
      (rows.length, (fit.counted rows).foldl (widen · columns ·) content) := by
  induction rows using List.reverseRecOn with
  | nil =>
    unfold FitPolicy.counted
    cases fit.rowLimit <;> simp
  | append_singleton rows cells ih =>
    rw [List.foldl_append, ih, List.foldl_cons, List.foldl_nil, List.length_append]
    refine Prod.ext rfl ?_
    show (if fit.counts rows.length then _ else _) = _
    unfold FitPolicy.counts FitPolicy.counted
    cases fit.rowLimit with
    | none => simp
    | some limit =>
      by_cases counts : (rows.length : Int) < limit
      · have room : rows.length < limit.toNat := by omega
        have all : rows.take limit.toNat = rows := List.take_of_length_le (by omega)
        have more : (rows ++ [cells]).take limit.toNat = rows ++ [cells] :=
          List.take_of_length_le (by rw [List.length_append, List.length_singleton]; omega)
        rw [if_pos (decide_eq_true counts)]
        simp only [all, more, List.foldl_append, List.foldl_cons, List.foldl_nil]
      · have full : limit.toNat ≤ rows.length := by omega
        rw [if_neg (by simpa using counts)]
        simp only [List.take_append_of_le_length full]

theorem measured_foldl_widen {header : Option HeaderPlan} {columns : List Column}
    (more : List (List Cell)) :
    ∀ {rows : List (List Cell)} {content : List Nat}, Measured header rows columns content →
      Measured header (rows ++ more) columns (more.foldl (Workbook.widen · columns ·) content) := by
  induction more with
  | nil =>
    intro rows content measured
    rw [List.append_nil]
    exact measured
  | cons cells more ih =>
    intro rows content measured
    rw [← List.singleton_append, ← List.append_assoc]
    exact ih (measured.widen cells)

/-- **All rows that count** are measured, and the header. -/
theorem measured_contentWidths (options : WriteOptions) (sheet : Sheet)
    (header : Option HeaderPlan) (rows : List (List Cell)) :
    Measured header (options.fit.counted rows) sheet.columns
      (contentWidths options sheet header rows) := by
  rw [contentWidths, foldl_measureRow]
  exact measured_foldl_widen _ (measured_headerContent sheet.columns header)

end Workbook

/-! ### The calls that set widths -/

/-- The columns that a call sets the width of, the first and the last one, and the width. -/
def SheetCall.width? : SheetCall → Option (Nat × Nat × Int)
  | .width first last units => some (first, last, units)
  | _ => none

/-- The worksheet has these widths set, each for one column, from left to right, and no others. -/
def Worksheet.HasWidths (ws : Worksheet) (widths : List Int) : Prop :=
  ws.calls.toList.filterMap SheetCall.width? = widths.zipIdx.map fun (width, c) => (c, c, width)

/-- The mark is not drawn by a call that sets a width. -/
def Mark.SetsNoWidth : Mark → Prop
  | formatted call _ => ∀ number, (call number).width? = none
  | plain call => call.width? = none

section Calls

variable {options : WriteOptions} {sheet : Sheet} {header : Option HeaderPlan}

theorem width?_eq_none_of_drawnBy {formats : List Format} {mark : Mark} {call : SheetCall}
    (none : mark.SetsNoWidth) (drawn : mark.DrawnBy formats call) : call.width? = Option.none := by
  cases mark with
  | formatted f format =>
    obtain ⟨number, _, _, _, rfl⟩ := drawn
    exact none number
  | plain call' => exact drawn ▸ none

/-- The calls that draw such marks set no width. -/
theorem filterMap_width?_of_drawn {formats : List Format} {marks : List Mark}
    {calls : List SheetCall} (none : ∀ mark ∈ marks, mark.SetsNoWidth)
    (drawn : List.Forall₂ (Mark.DrawnBy formats) marks calls) :
    calls.filterMap SheetCall.width? = [] := by
  rw [List.filterMap_eq_nil_iff]
  intro call member
  obtain ⟨mark, isMark, draws⟩ := exists_of_mem_right drawn member
  exact width?_eq_none_of_drawnBy (none mark isMark) draws

/-- Neither the header nor the rows set widths. -/
theorem setsNoWidth_of_mem_pageMarks (page : Page) :
    ∀ mark ∈ pageMarks options sheet header page, mark.SetsNoWidth := by
  refine forall_mem_pageMarks (fun _ => rfl) (fun _ _ _ _ _ _ _ => rfl) ?_ page
  intro row position v _ number
  cases v <;> rfl

theorem widthCalls_eq (widths : List Int) :
    widthCalls widths = widths.zipIdx.map fun (width, c) => .width c c width := by
  apply List.ext_getElem <;> simp [widthCalls]

/-- **A page that ends with width calls** has these widths. -/
theorem Page.Drawn.hasWidths {formats : List Format} {widths : List Int} {page : Page}
    (drawn : page.Drawn options sheet header formats (widthCalls widths)) :
    page.worksheet.HasWidths widths := by
  obtain ⟨before, after⟩ := Workbook.forall₂_append_left drawn
  have last := eq_of_forall₂_plain after
  have none := filterMap_width?_of_drawn (setsNoWidth_of_mem_pageMarks page) before
  unfold Worksheet.HasWidths
  rw [← List.take_append_drop _ page.worksheet.calls.toList, List.filterMap_append, none, last,
    List.nil_append, widthCalls_eq, List.filterMap_map]
  exact congrFun List.filterMap_eq_map _

end Calls

/-! ### The widths of a sheet -/

/-- **A fitted width is one that a worksheet can have**, whatever the policy. -/
theorem FitPolicy.clamp_bounds (p : FitPolicy) (content : Nat) :
    1 ≤ p.clamp content ∧ p.clamp content ≤ 255 := by
  unfold clamp
  dsimp only
  omega

/-- The width of a column: its own, or, where that is the one that stands for fitting, the greatest
of its content, padded and within the limits. -/
structure IsWidth (fit : FitPolicy) (header : Option HeaderPlan) (rows : List (List Cell)) (c : Nat)
    (column : Column) (width : Int) : Prop where
  own : column.width ≠ -1 → width = column.width
  fitted : column.width = -1 → ∃ content : Nat,
    IsGreatest {n | ContentWidth header (fit.counted rows) c n} content ∧
    width = min (min 255 (max (max 1 fit.least) fit.greatest))
      (max (max 1 fit.least) (max 0 fit.padding + content))
  bounds : column.width = -1 → 1 ≤ width ∧ width ≤ 255

namespace Workbook

theorem length_finalWidths (options : WriteOptions) (sheet : Sheet) (header : Option HeaderPlan)
    (rows : List (List Cell)) :
    (finalWidths options sheet header rows).length = sheet.columns.length := by
  rw [finalWidths, columnWidths, List.length_map, List.length_zip,
    (measured_contentWidths options sheet header rows).length, Nat.min_self]

/-- The widths that are set in the end are those of the columns. -/
theorem isWidth_finalWidths {options : WriteOptions} {sheet : Sheet} {header : Option HeaderPlan}
    {rows : List (List Cell)} {c : Nat} {column : Column} {width : Int}
    (isColumn : sheet.columns[c]? = some column)
    (isSet : (finalWidths options sheet header rows)[c]? = some width) :
    IsWidth options.fit header rows c column width := by
  have measured := measured_contentWidths options sheet header rows
  rw [finalWidths, columnWidths, List.getElem?_map, Option.map_eq_some_iff] at isSet
  obtain ⟨⟨column', content⟩, both, isSet⟩ := isSet
  obtain ⟨isColumn', isContent⟩ := List.getElem?_zip_eq_some.mp both
  obtain rfl : column = column' := Option.some.inj (isColumn.symm.trans isColumn')
  change (if column.isFitted then options.fit.clamp content else column.width) = width at isSet
  have fitted : column.isFitted = true ↔ column.width = -1 := decide_eq_true_iff
  refine ⟨fun own => ?_, fun auto => ?_, fun auto => ?_⟩
  · rw [if_neg (mt fitted.mp own)] at isSet
    exact isSet.symm
  · rw [if_pos (fitted.mpr auto)] at isSet
    obtain ⟨greatest, isGreatest, greatestOf⟩ := measured.greatest c column isColumn
      (fitted.mpr auto)
    obtain rfl : content = greatest := Option.some.inj (isContent.symm.trans isGreatest)
    refine ⟨content, greatestOf, isSet.symm.trans ?_⟩
    rw [FitPolicy.clamp, Int.add_comm (max 0 _)]
  · rw [if_pos (fitted.mpr auto)] at isSet
    exact isSet ▸ options.fit.clamp_bounds content

end Workbook

namespace Desk

variable {d d' : Desk} {options : WriteOptions} {m : MergedSheet}

/-- **All worksheets of a sheet that is written have the same widths**: one for each column, its own
or the one that fits it to its content in the header and the body rows that count. -/
theorem writeSheet_widths (written : Yields (writeSheet options m) d () d') :
    ∃ catalog rows added widths,
      Workspace.Pulls m { d.workspace with catalog := catalog } rows d'.workspace ∧
      d'.workbook.worksheets.toList = d.workbook.worksheets.toList ++ added ∧ added ≠ [] ∧
      (∀ ws ∈ added, ws.HasWidths widths) ∧ widths.length = m.sheet.columns.length ∧
      ∀ c column width, m.sheet.columns[c]? = some column → widths[c]? = some width →
        IsWidth options.fit m.header? rows c column width := by
  obtain ⟨catalog, rows, name, pulls, run⟩ := exists_of_writeSheet written
  obtain ⟨pages, onPages⟩ := Workbook.exists_written options m.sheet m.header? name rows true
    d.workbook
  rw [run, if_pos rfl] at onPages
  refine ⟨catalog, rows, pages.map Page.worksheet, _, pulls, onPages.worksheets, ?_, ?_,
    Workbook.length_finalWidths options m.sheet m.header? rows, ?_⟩
  · exact fun none => onPages.some (List.map_eq_nil_iff.mp none)
  · rw [List.forall_mem_map]
    exact fun page member => (onPages.drawn page member).hasWidths
  · exact fun c column width isColumn isSet => Workbook.isWidth_finalWidths isColumn isSet

/-! ### Two records on two worksheets -/

/-- A column that is fitted. -/
def fittedMerged : MergedSheet :=
  { sampleMerged with
    sheet := { sampleMerged.sheet with
      columns := sampleMerged.sheet.columns.map fun c => { c with width := autoWidth } } }

/-- Worksheets for one body row, of which only the first one counts; the limits are the wrong way
round. -/
def fittedOptions : WriteOptions :=
  { maxRows := 2, fit := ⟨some 1, 30, -4, -7⟩ }

theorem exists_yields_writeSheet_fitted :
    ∃ d', Yields (writeSheet fittedOptions fittedMerged) sampleDesk () d' := by
  have named : Yields (sheetName "left") sampleDesk "left".toList sampleDesk := rfl
  obtain ⟨rows, d₁, taken⟩ : ∃ rows d₁, Yields
      (onWorkspace (Workspace.takeAllRows fittedMerged : StateM Workspace _)) sampleDesk
        (rows, none) d₁ := ⟨_, _, rfl⟩
  obtain ⟨d', drawn⟩ : ∃ d', Yields (onWorkbook (Workbook.writeRows fittedOptions
      fittedMerged.sheet fittedMerged.header? "left".toList rows true)) d₁ () d' := ⟨_, rfl⟩
  exact ⟨d', named.bind (taken.bind (drawn.bind (.pure _ _)))⟩

/-- All worksheets get the least width, whatever there is in the column. -/
theorem writeSheet_widths_sample :
    ∃ d' added, Yields (writeSheet fittedOptions fittedMerged) sampleDesk () d' ∧
      d'.workbook.worksheets.toList = sampleDesk.workbook.worksheets.toList ++ added ∧
      added ≠ [] ∧ ∀ ws ∈ added, ws.HasWidths [30] := by
  obtain ⟨d', written⟩ := exists_yields_writeSheet_fitted
  obtain ⟨_, _, added, widths, _, worksheets, some, same, length, each⟩ :=
    writeSheet_widths written
  obtain ⟨width, rfl⟩ := List.length_eq_one_iff.mp length
  obtain ⟨content, _, isWidth⟩ := (each 0 _ width rfl rfl).fitted rfl
  have least : width = 30 := by
    simp only [fittedOptions] at isWidth
    omega
  exact ⟨d', added, written, worksheets, some, least ▸ same⟩

end Desk

end SheetExport
