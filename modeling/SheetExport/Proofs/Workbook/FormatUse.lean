/-
**Which formats the cells of a workbook share.**

* `SheetWriting`, `writeAll` — what is written of one sheet, and of several sheets by one writer;
  `exists_writings_of_reachable`: the workbook of a writer comes from such writings;
* `cellFormats sheet header page` — the formats of the cells of a page, header and body, each made
  of its own style, column and value only;
* `IsFormatOf formats f number` — the format of the number was added, and is equal to this one;
* `SharesFormats formats own numbers` — the numbers are those of formats equal to the cells' own;
  each was added once, at its first use, and two numbers are one just if the cells' formats are
  equal;
* `exists_writtenAll`: writings put their rows on pages, in turn (`WrittenAll`);
* `writeAll_sharesFormats`: whatever a writer is given to write, its cells share their formats so,
  and no number that was kept for a cell is seen in it.
-/

import SheetExport.Proofs.Workbook.Naming
import SheetExport.Proofs.Workbook.Paging

namespace SheetExport

open Workbook

/-! ### Shared formats -/

/-- The format of a number is equal to this one. -/
def IsFormatOf (formats : List Format) (f : Format) (number : Nat) : Prop :=
  ∃ used, formats[number]? = some used ∧ used.same f = true

/-- The numbers that cells got for their own formats. -/
structure SharesFormats (formats own : List Format) (numbers : List Nat) : Prop where
  /-- The number is that of a format equal to the cell's own. -/
  used : List.Forall₂ (IsFormatOf formats) own numbers
  /-- Formats are added as they come, and no two that are equal. -/
  added : formats.Sublist own
  distinct : formats.Pairwise fun f g => f.same g = false
  /-- Two cells have one number just if their own formats are equal. -/
  shared : ∀ (i j : Nat) (f g : Format) (m n : Nat), own[i]? = some f → numbers[i]? = some m →
    own[j]? = some g → numbers[j]? = some n → (m = n ↔ f.same g = true)

/-- Formats of which no two are equal are told apart by their numbers. -/
theorem eq_of_same {formats : List Format} {m n : Nat} {f g : Format}
    (distinct : formats.Pairwise fun f g => f.same g = false) (isFirst : formats[m]? = some f)
    (isSecond : formats[n]? = some g) (same : f.same g = true) : m = n := by
  obtain ⟨below, rfl⟩ := List.getElem?_eq_some_iff.mp isFirst
  obtain ⟨below', rfl⟩ := List.getElem?_eq_some_iff.mp isSecond
  rcases Nat.lt_trichotomy m n with before | equal | after
  · have apart := List.pairwise_iff_getElem.mp distinct m n below below' before
    rw [same] at apart
    cases apart
  · exact equal
  · have apart := List.pairwise_iff_getElem.mp distinct n m below' below after
    rw [Format.same_comm, same] at apart
    cases apart

/-- **Two numbers are one just if the formats are equal** that they were given for. -/
theorem eq_iff_same {formats : List Format} {m n : Nat} {f g : Format}
    (distinct : formats.Pairwise fun f g => f.same g = false) (first : IsFormatOf formats f m)
    (second : IsFormatOf formats g n) : m = n ↔ f.same g = true := by
  obtain ⟨used, isUsed, same⟩ := first
  obtain ⟨used', isUsed', same'⟩ := second
  constructor
  · rintro rfl
    obtain rfl : used = used' := Option.some.inj (isUsed.symm.trans isUsed')
    rw [Format.same_comm] at same
    exact Format.same_trans same same'
  · intro equal
    rw [Format.same_comm] at same'
    exact eq_of_same distinct isUsed isUsed'
      (Format.same_trans same (Format.same_trans equal same'))

theorem foldl_addFormat_sublist (more formats : List Format) :
    (more.foldl addFormat formats).Sublist (formats ++ more) := by
  induction more generalizing formats with
  | nil => rw [List.append_nil]; exact .refl _
  | cons f more ih =>
    refine (ih _).trans ?_
    unfold addFormat
    split
    · exact List.Sublist.append_left (List.sublist_cons_self f more) formats
    · rw [List.append_assoc, List.singleton_append]

theorem of_forall₂_getElem? {α β : Type} {R : α → β → Prop} {as : List α} {bs : List β} {i : Nat}
    {a : α} {b : β} (related : List.Forall₂ R as bs) (isLeft : as[i]? = some a)
    (isRight : bs[i]? = some b) : R a b := by
  obtain ⟨below, rfl⟩ := List.getElem?_eq_some_iff.mp isLeft
  obtain ⟨below', rfl⟩ := List.getElem?_eq_some_iff.mp isRight
  exact related.get below below'

theorem sharesFormats_of_used {formats own : List Format} {numbers : List Nat}
    (used : List.Forall₂ (IsFormatOf formats) own numbers)
    (isAdded : formats = own.foldl addFormat [])
    (distinct : formats.Pairwise fun f g => f.same g = false) :
    SharesFormats formats own numbers where
  used := used
  added := isAdded ▸ foldl_addFormat_sublist own []
  distinct := distinct
  shared i j f g m n isOwn isNumber isOwn' isNumber' := by
    have first := of_forall₂_getElem? used isOwn isNumber
    have second := of_forall₂_getElem? used isOwn' isNumber'
    exact eq_iff_same distinct first second

/-! ### What is written -/

/-- What is written of one sheet: some rows under a header, and whether that is all. -/
structure SheetWriting where
  options : WriteOptions
  sheet : Sheet
  header : Option HeaderPlan
  name : List Char
  rows : List (List Cell)
  complete : Bool

/-- The workbook after one writing. -/
def SheetWriting.after (s : SheetWriting) (w : Workbook) : Workbook :=
  ((writeRows s.options s.sheet s.header s.name s.rows s.complete).run w).2

/-- The calls at the end of every page: the widths of a sheet that is complete. -/
def SheetWriting.closing (s : SheetWriting) : List SheetCall :=
  if s.complete then widthCalls (finalWidths s.options s.sheet s.header s.rows) else []

/-- The workbook of a writer after several writings. -/
def writeAll (writings : List SheetWriting) : Workbook :=
  writings.foldl (fun w s => s.after w) .empty

/-- **The workbook of a writer** comes from such writings, whatever was written and refused. -/
theorem exists_writings_of_reachable {w : Workbook} (reachable : Reachable w) :
    ∃ writings, w = writeAll writings := by
  refine reachable.holds (I := fun w => ∃ writings, w = writeAll writings) ⟨[], rfl⟩ ?_
  rintro options sheet header name rows complete _ _ ⟨writings, rfl⟩
  refine ⟨writings ++ [⟨options, sheet, header, name, rows, complete⟩], ?_⟩
  rw [writeAll, writeAll, List.foldl_concat]
  rfl

/-! ### The formats of cells -/

/-- The format of a header cell in one of its rows: only cells over a single column have borders. -/
def headerCellFormat (plan : HeaderPlan) (row : Nat) (c : HeaderCell) : Format :=
  if c.firstColumn ≠ c.lastColumn then c.style.spec.format else borderedFormat plan row c

/-- The formats of the cells of a header, row by row. -/
def headerFormats : Option HeaderPlan → List Format
  | none => []
  | some plan =>
    (List.range plan.rows).flatMap fun row => (plan.rowCells row).map (headerCellFormat plan row)

/-- The formats of the cells of a body row. -/
def rowFormats (columns : List Column) (cells : List Cell) : List Format :=
  (columns.zip cells).map fun (column, cell) =>
    cellFormat cell.style.spec.format column.dataFormat cell.value

/-- The formats of the cells of a page. -/
def cellFormats (sheet : Sheet) (header : Option HeaderPlan) (page : Page) : List Format :=
  headerFormats header ++ page.rows.flatMap (rowFormats sheet.columns)

/-- The number of the format that a call has, if it has one. -/
def SheetCall.format? : SheetCall → Option Nat
  | .blank _ _ format | .boolean _ _ _ format | .number _ _ _ format | .dateTime _ _ _ format
  | .text _ _ _ format | .merge _ _ _ _ _ format => some format
  | .freeze _ | .width _ _ _ => none

/-- The numbers of formats in the calls of a worksheet. -/
def Worksheet.formatNumbers (ws : Worksheet) : List Nat :=
  ws.calls.toList.filterMap SheetCall.format?

/-- A mark whose call has the number that it is given, or has none. -/
def Mark.Numbered : Mark → Prop
  | formatted call _ => ∀ number, (call number).format? = some number
  | plain call => call.format? = none

section Pages

variable {options : WriteOptions} {sheet : Sheet} {header : Option HeaderPlan}

theorem numbered_of_mem_pageMarks (page : Page) :
    ∀ mark ∈ pageMarks options sheet header page, mark.Numbered := by
  refine forall_mem_pageMarks (fun _ => rfl) (fun _ _ _ _ _ _ _ => rfl) ?_ page
  intro row position v _ number
  cases v <;> rfl

theorem format?_headerMark (plan : HeaderPlan) (row : Nat) (c : HeaderCell) :
    (headerMark plan row c).format? = some (headerCellFormat plan row c) := by
  unfold headerMark headerCellFormat
  split
  · rfl
  · split <;> rfl

theorem filterMap_format?_topMarks (options : WriteOptions) (header : Option HeaderPlan) :
    (topMarks options header).filterMap Mark.format? = headerFormats header := by
  cases header with
  | none => rfl
  | some plan =>
    have frozen : (if options.freezeHeader then [Mark.plain (.freeze plan.rows)] else []).filterMap
        Mark.format? = [] := by
      split <;> rfl
    have row : ∀ row, ((plan.rowCells row).map (headerMark plan row)).filterMap Mark.format? =
        (plan.rowCells row).map (headerCellFormat plan row) := by
      intro row
      rw [List.filterMap_map]
      have same : Mark.format? ∘ headerMark plan row = some ∘ headerCellFormat plan row := by
        funext c
        exact format?_headerMark plan row c
      rw [same, List.filterMap_eq_map]
    rw [topMarks, List.filterMap_append, frozen, List.append_nil, headerMarks,
      List.filterMap_flatMap]
    exact congrArg (List.flatMap · _) (funext row)

theorem filterMap_format?_rowMarks (columns : List Column) (row : Nat) (cells : List Cell) :
    (rowMarks columns row cells).filterMap Mark.format? = rowFormats columns cells := by
  have length : (columns.zip cells).length ≤ (List.range columns.length).length := by
    rw [List.length_zip, List.length_range]
    exact Nat.min_le_left _ _
  have cellsOnly : ((List.range columns.length).zip (columns.zip cells)).map Prod.snd =
      columns.zip cells := List.map_snd_zip length
  rw [rowFormats, ← cellsOnly, List.map_map, rowMarks, List.filterMap_map]
  exact congrFun List.filterMap_eq_map _

/-- A page is drawn with the formats of its cells. -/
theorem filterMap_format?_pageMarks (page : Page) :
    (pageMarks options sheet header page).filterMap Mark.format? =
      cellFormats sheet header page := by
  rw [pageMarks, List.filterMap_append, filterMap_format?_topMarks, cellFormats, bodyMarks,
    List.filterMap_flatMap]
  have rows : (page.rows.zipIdx (headerRows header)).map Prod.fst = page.rows :=
    List.zipIdx_map_fst _ _
  conv =>
    rhs
    rw [← rows, List.flatMap_map]
  congr 2
  funext placed
  exact filterMap_format?_rowMarks _ _ _

/-- Calls that draw marks have the numbers of formats equal to those of the marks. -/
theorem used_of_drawn {formats : List Format} {marks : List Mark} {calls : List SheetCall}
    (numbered : ∀ mark ∈ marks, mark.Numbered)
    (drawn : List.Forall₂ (Mark.DrawnBy formats) marks calls) :
    List.Forall₂ (IsFormatOf formats) (marks.filterMap Mark.format?)
      (calls.filterMap SheetCall.format?) := by
  induction drawn with
  | nil => exact .nil
  | @cons mark call marks calls first _ ih =>
    rw [List.forall_mem_cons] at numbered
    have others := ih numbered.2
    cases mark with
    | plain call' =>
      obtain rfl : call = call' := first
      have isNumber : call.format? = none := numbered.1
      have isFormat : (Mark.plain call).format? = none := rfl
      rw [List.filterMap_cons_none isFormat, List.filterMap_cons_none isNumber]
      exact others
    | formatted f format =>
      obtain ⟨number, used, isUsed, equal, rfl⟩ := first
      have isNumber : (f number).format? = some number := numbered.1 number
      have isFormat : (Mark.formatted f format).format? = some format := rfl
      rw [List.filterMap_cons_some isFormat, List.filterMap_cons_some isNumber]
      refine .cons ⟨used, isUsed, ?_⟩ others
      rcases equal with rfl | same
      · exact used.same_refl
      · exact same

/-- **The cells of a page** have the numbers of formats equal to their own. -/
theorem Page.Drawn.used {formats : List Format} {more : List SheetCall} {page : Page}
    (drawn : page.Drawn options sheet header formats more)
    (silent : ∀ call ∈ more, call.format? = none) :
    List.Forall₂ (IsFormatOf formats) (cellFormats sheet header page)
      page.worksheet.formatNumbers := by
  have plain : (more.map Mark.plain).filterMap Mark.format? = [] := filterMap_format?_plain more
  have own : (pageMarks options sheet header page ++ more.map Mark.plain).filterMap Mark.format? =
      cellFormats sheet header page := by
    rw [List.filterMap_append, filterMap_format?_pageMarks, plain, List.append_nil]
  rw [← own]
  have numbered : ∀ mark ∈ pageMarks options sheet header page ++ more.map Mark.plain,
      mark.Numbered :=
    List.forall_mem_append.mpr ⟨numbered_of_mem_pageMarks page, List.forall_mem_map.mpr silent⟩
  exact used_of_drawn numbered drawn

theorem SheetWriting.silent_closing (s : SheetWriting) :
    ∀ call ∈ s.closing, call.format? = none := by
  unfold closing
  split
  · intro call member
    obtain ⟨_, _, rfl⟩ := List.mem_map.mp member
    rfl
  · exact List.forall_mem_nil _

end Pages

/-! ### All that a writer writes -/

/-- The rows of a writing are on these pages. -/
structure SheetWriting.OnPages (s : SheetWriting) (formats : List Format) (pages : List Page) :
    Prop where
  some : pages ≠ []
  rows : pages.flatMap Page.rows = s.rows
  drawn : ∀ page ∈ pages, page.Drawn s.options s.sheet s.header formats s.closing

theorem SheetWriting.OnPages.mono {s : SheetWriting} {formats more : List Format}
    {pages : List Page} (onPages : s.OnPages formats pages) (kept : formats <+: more) :
    s.OnPages more pages :=
  ⟨onPages.some, onPages.rows, fun page member => (onPages.drawn page member).mono kept⟩

/-- The formats of the cells of all writings, in the order in which they are written. -/
def ownFormats (writings : List SheetWriting) (pages : List (List Page)) : List Format :=
  (writings.zip pages).flatMap fun (s, pages) => pages.flatMap (cellFormats s.sheet s.header)

/-- Each writing has its own pages, one after the other. -/
structure WrittenAll (writings : List SheetWriting) (w : Workbook) (pages : List (List Page)) :
    Prop where
  each : List.Forall₂ (fun s pages => s.OnPages w.formats pages) writings pages
  worksheets : w.worksheets.toList = pages.flatten.map Page.worksheet
  formats : w.formats = (ownFormats writings pages).foldl addFormat []

theorem formatsAfter_pages (formats : List Format) (s : SheetWriting) (pages : List Page) :
    formatsAfter formats (pages.flatMap (pageMarks s.options s.sheet s.header)) =
      (pages.flatMap (cellFormats s.sheet s.header)).foldl addFormat formats := by
  rw [formatsAfter, List.filterMap_flatMap]
  congr 2
  funext page
  exact filterMap_format?_pageMarks page

/-- **One more writing** adds its pages and the formats of its cells. -/
theorem WrittenAll.after {writings : List SheetWriting} {w : Workbook} {pages : List (List Page)}
    (written : WrittenAll writings w pages) (s : SheetWriting) :
    ∃ more, WrittenAll (writings ++ [s]) (s.after w) (pages ++ [more]) := by
  obtain ⟨more, onPages⟩ := exists_written s.options s.sheet s.header s.name s.rows s.complete w
  have formats : (s.after w).formats = _ := onPages.formats
  have kept : w.formats <+: (s.after w).formats := formats ▸ prefix_formatsAfter _ _
  refine ⟨more, ?_, ?_, ?_⟩
  · refine List.rel_append (written.each.imp fun _ _ => (·.mono kept)) (.cons ?_ .nil)
    exact ⟨onPages.some, onPages.rows, onPages.drawn⟩
  · rw [List.flatten_append, List.map_append, ← written.worksheets, List.flatten_singleton]
    exact onPages.worksheets
  · rw [formats, formatsAfter_pages, written.formats, ownFormats, ownFormats,
      List.zip_append written.each.length_eq, List.flatMap_append, List.foldl_append]
    simp

/-- **Whatever is written** is on pages, in turn. -/
theorem exists_writtenAll (writings : List SheetWriting) :
    ∃ pages, WrittenAll writings (writeAll writings) pages := by
  induction writings using List.reverseRecOn with
  | nil => exact ⟨[], .nil, rfl, rfl⟩
  | append_singleton writings s ih =>
    obtain ⟨pages, written⟩ := ih
    obtain ⟨more, all⟩ := written.after s
    refine ⟨pages ++ [more], ?_⟩
    rw [writeAll, List.foldl_concat]
    exact all

theorem forall₂_flatMap {α β γ : Type} {R : β → γ → Prop} {f : α → List β} {g : α → List γ}
    {as : List α} (each : ∀ a ∈ as, List.Forall₂ R (f a) (g a)) :
    List.Forall₂ R (as.flatMap f) (as.flatMap g) := by
  induction as with
  | nil => exact .nil
  | cons a as ih =>
    rw [List.forall_mem_cons] at each
    exact List.rel_append each.1 (ih each.2)

/-- All cells have the numbers of formats equal to their own. -/
theorem WrittenAll.used {writings : List SheetWriting} {w : Workbook} {pages : List (List Page)}
    (written : WrittenAll writings w pages) :
    List.Forall₂ (IsFormatOf w.formats) (ownFormats writings pages)
      (w.worksheets.toList.flatMap Worksheet.formatNumbers) := by
  have numbers : w.worksheets.toList.flatMap Worksheet.formatNumbers =
      (writings.zip pages).flatMap fun p => p.2.flatMap (·.worksheet.formatNumbers) := by
    have pagesOnly : (writings.zip pages).map Prod.snd = pages :=
      List.map_snd_zip (Nat.le_of_eq written.each.length_eq.symm)
    conv =>
      lhs
      rw [written.worksheets, ← pagesOnly, List.flatMap_map, List.flatten_eq_flatMap]
    rw [List.flatMap_map, List.flatMap_assoc]
    rfl
  rw [numbers]
  refine forall₂_flatMap fun p member => forall₂_flatMap fun page isPage => ?_
  have onPages := List.forall₂_zip written.each member
  exact (onPages.drawn page isPage).used p.1.silent_closing

/-- **The cells of a writer share their formats just as these are equal**, whatever it is given to
write: each has a format equal to its own, made of its style, column and value, and each format was
added once. -/
theorem writeAll_sharesFormats (writings : List SheetWriting) :
    ∃ pages, WrittenAll writings (writeAll writings) pages ∧
      SharesFormats (writeAll writings).formats (ownFormats writings pages)
        ((writeAll writings).worksheets.toList.flatMap Worksheet.formatNumbers) := by
  obtain ⟨pages, written⟩ := exists_writtenAll writings
  exact ⟨pages, written,
    sharesFormats_of_used written.used written.formats (writeAll writings).table.distinct⟩

end SheetExport
