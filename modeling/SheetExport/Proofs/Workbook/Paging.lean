/-
**A sheet is written on as many worksheets as it needs.**

While rows are written, the workbook, its formats and the reports are those of the pages
(`Underway`). A row goes to the last page, or to a further one if it is full (`Placed`), and is
measured (`measureRow`): `exists_underway_writeRow`. All rows keep what one row that is placed keeps
(`exists_underway_rows`), such as that all pages but the last are full (`Filled`). The widths are set
at the end (`exists_finishSheet`).

* `Written more options sheet header rows w w' pages` — from `w` to `w'` these rows were put on
  pages behind the worksheets that there were, each drawn with the header and its rows, and then
  with the calls `more`; the formats are those that the pages are drawn with;
* `contentWidths options sheet header rows` — the widths of the content that is measured;
* `exists_written`: writing rows does this, with the widths of the columns at the end of every page
  if the sheet is complete, whatever its rows and limits are;
* `Desk.writeSheet_pages`: a sheet that is written has its rows on its pages in order, all but the
  last full and each but the first with a row; on every page the same header and then its rows cover
  all cells once, in ascending order; and there is one report for each, the first with one warning
  for each further page.
-/

import SheetExport.Proofs.Organize.Iteration
import SheetExport.Proofs.Organize.Prepared
import SheetExport.Proofs.Workbook.Page

namespace SheetExport

namespace Workbook

variable {options : WriteOptions} {sheet : Sheet} {header : Option HeaderPlan}

/-! ### Pages under way -/

/-- The rows so far fill all pages but the last, which has some of them unless it is the first. -/
structure Filled (limit : Int) (rows : List (List Cell)) (closed : List Page) (last : Page) :
    Prop where
  rows : closed.flatMap Page.rows ++ last.rows = rows
  full : ∀ page ∈ closed, (page.rows.length : Int) = limit
  fits : (last.rows.length : Int) ≤ limit
  begun : closed ≠ [] → last.rows ≠ []

/-- The workbook has the pages behind the worksheets it had at first, and the parts are theirs. -/
structure Underway (options : WriteOptions) (sheet : Sheet) (header : Option HeaderPlan)
    (w₀ w : Workbook) (p : Progress) (closed : List Page) (last : Page) : Prop where
  worksheets : w.worksheets.toList =
    w₀.worksheets.toList ++ (closed ++ [last]).map Page.worksheet
  drawn : ∀ page ∈ closed ++ [last], page.Drawn options sheet header w.formats []
  /-- The formats are those that the pages are drawn with. -/
  formats : w.formats =
    formatsAfter w₀.formats ((closed ++ [last]).flatMap (pageMarks options sheet header))
  numbers : p.parts.map Prod.fst = List.range' w₀.worksheets.size (closed.length + 1)
  reports : p.parts.map Prod.snd =
    reportsOf sheet header (pageLimit options header) (closed ++ [last])
  rowInPart : p.rowInPart = last.rows.length
  kept : w.reports = w₀.reports

section Lists

theorem modify_append_length {α : Type} (before after : List α) (a : α) (f : α → α) :
    (before ++ a :: after).modify before.length f = before ++ f a :: after := by
  induction before with
  | nil => rfl
  | cons b before ih =>
    rw [List.cons_append, List.length_cons, List.modify_succ_cons, ih, List.cons_append]

/-- The parts with one more warning in the first one's report. -/
def warnFirst (warning : String) : List (Nat × Report) → List (Nat × Report)
  | (number, report) :: rest =>
    (number, { report with warnings := report.warnings ++ [warning] }) :: rest
  | [] => []

theorem map_fst_warnFirst (warning : String) (parts : List (Nat × Report)) :
    (warnFirst warning parts).map Prod.fst = parts.map Prod.fst := by
  cases parts <;> rfl

/-- A warning of a further page makes the reports those of the pages with it. -/
theorem map_snd_warnFirst {limit : Int} {pages : List Page} {parts : List (Nat × Report)}
    (reports : parts.map Prod.snd = reportsOf sheet header limit pages) (some : pages ≠ [])
    (page : Page) :
    (warnFirst (continuation limit page.worksheet.name) parts).map Prod.snd ++
        [page.report sheet header []] = reportsOf sheet header limit (pages ++ [page]) := by
  cases pages with
  | nil => exact absurd rfl some
  | cons first others =>
    cases parts with
    | nil => cases reports
    | cons part parts =>
      obtain ⟨report, rest⟩ := List.cons.inj reports
      rw [warnFirst, List.map_cons, rest, report, List.cons_append, List.cons_append, reportsOf,
        List.map_append, List.map_append]
      rfl

theorem countRow_append (parts : List (Nat × Report)) (number : Nat) (report : Report) :
    countRow (parts ++ [(number, report)]) =
      parts ++ [(number, { report with rows := report.rows + 1 })] := by
  induction parts with
  | nil => rfl
  | cons part parts ih =>
    cases parts with
    | nil => rfl
    | cons next parts =>
      rw [List.cons_append, List.cons_append, countRow, ← List.cons_append, ih]
      · rfl
      · simp

end Lists

/-- The workbook with a further worksheet, under the unique name for a name. -/
def opened (name : List Char) (w : Workbook) : Workbook :=
  { w with
    worksheets := w.worksheets.push ⟨String.ofList (uniqueSheetName w.names name), #[]⟩
    names := Text.foldCase (uniqueSheetName w.names name) :: w.names }

/-- A further worksheet is opened, and the header is drawn on it. -/
theorem exists_draws_addPart (options : WriteOptions) (sheet : Sheet) (header : Option HeaderPlan)
    (name : List Char) (w : Workbook) :
    ∃ w', (addPart options sheet header name).run w =
        ((w.worksheets.size, ⟨String.ofList (uniqueSheetName w.names name), sheet.name, 0,
          sheet.columns.length, headerRows header, []⟩), w') ∧
      Draws w.worksheets.size (topMarks options header) (opened name w) w' := by
  cases header with
  | none => exact ⟨opened name w, rfl, .refl _ _⟩
  | some plan =>
    have written := draws_writeHeader w.worksheets.size plan (opened name w)
    by_cases frozen : options.freezeHeader = true
    · have kept := written.trans (draws_callOn w.worksheets.size (.freeze plan.rows) _)
      rw [topMarks, if_pos frozen]
      refine ⟨_, ?_, kept⟩
      simp only [addPart, if_pos frozen]
      rfl
    · rw [topMarks, if_neg frozen, List.append_nil]
      refine ⟨_, ?_, written⟩
      simp only [addPart, if_neg frozen]
      rfl

/-- A further page begins with the header. -/
theorem exists_addPart (options : WriteOptions) (sheet : Sheet) (header : Option HeaderPlan)
    (name : List Char) (w : Workbook) :
    ∃ worksheet w', (addPart options sheet header name).run w =
        ((w.worksheets.size, (Page.mk worksheet []).report sheet header []), w') ∧
      w'.worksheets.toList = w.worksheets.toList ++ [worksheet] ∧
      (Page.mk worksheet []).Drawn options sheet header w'.formats [] ∧
      w'.formats = formatsAfter w.formats (pageMarks options sheet header ⟨worksheet, []⟩) ∧
      w'.reports = w.reports := by
  obtain ⟨w', run, draws⟩ := exists_draws_addPart options sheet header name w
  obtain ⟨calls, drawn, worksheets⟩ := draws.worksheets
  refine ⟨(Worksheet.mk _ #[]).extend calls, w', run, ?_, ?_, ?_, draws.reports⟩
  · rw [worksheets, opened, Array.toList_push, ← Array.length_toList, modify_append_length]
    rfl
  · unfold Page.Drawn
    simp only [bodyMarks, List.zipIdx_nil, List.flatMap_nil, List.append_nil, List.map_nil,
      Worksheet.toList_calls_extend, List.nil_append]
    exact drawn
  · rw [pageMarks_nil]
    exact draws.added

section Steps

variable {w₀ w w' : Workbook} {p : Progress} {closed : List Page} {last : Page}
  {rows : List (List Cell)} {limit : Int}

/-- Before the first row there is one page. -/
theorem exists_underway_start (options : WriteOptions) (sheet : Sheet)
    (header : Option HeaderPlan) (name : List Char) (w₀ : Workbook) (content : List Nat) :
    ∃ part worksheet w', (addPart options sheet header name).run w₀ = (part, w') ∧
      Underway options sheet header w₀ w' ⟨[part], 0, 0, content⟩ [] ⟨worksheet, []⟩ := by
  obtain ⟨worksheet, w', run, worksheets, drawn, formats, reports⟩ :=
    exists_addPart options sheet header name w₀
  refine ⟨_, worksheet, w', run, worksheets, ?_, ?_, rfl, rfl, rfl, reports⟩
  · simpa using drawn
  · rw [List.nil_append, List.flatMap_singleton]
    exact formats

theorem exists_underway_continuePart (name : List Char)
    (underway : Underway options sheet header w₀ w p closed last) :
    ∃ worksheet p' w',
      (continuePart options sheet header name (pageLimit options header) p).run w = (p', w') ∧
      Underway options sheet header w₀ w' p' (closed ++ [last]) ⟨worksheet, []⟩ ∧
      p'.seen = p.seen ∧ p'.content = p.content := by
  obtain ⟨worksheet, w', run, worksheets, drawn, formats, reports⟩ :=
    exists_addPart options sheet header name w
  have ran : (continuePart options sheet header name (pageLimit options header) p).run w =
      ({ p with
          parts := warnFirst (continuation (pageLimit options header) worksheet.name) p.parts ++
            [(w.worksheets.size, (Page.mk worksheet []).report sheet header [])]
          rowInPart := 0 }, w') := by
    rw [continuePart]
    exact run_bind_eq run rfl
  have kept : w.formats <+: w'.formats := formats ▸ prefix_formatsAfter _ _
  refine ⟨worksheet, _, w', ran, ⟨?_, ?_, ?_, ?_, ?_, rfl, reports.trans underway.kept⟩, rfl, rfl⟩
  · have pages : (closed ++ [last] ++ [Page.mk worksheet []]).map Page.worksheet =
        (closed ++ [last]).map Page.worksheet ++ [worksheet] := List.map_append
    rw [worksheets, underway.worksheets, List.append_assoc, pages]
  · intro page member
    rcases List.mem_append.mp member with before | isLast
    · exact (underway.drawn page before).mono kept
    · rw [List.mem_singleton.mp isLast]
      exact drawn
  · rw [formats, underway.formats, ← formatsAfter_append]
    simp only [List.flatMap_append, List.flatMap_singleton]
  · have size : w.worksheets.size = w₀.worksheets.size + (closed.length + 1) := by
      rw [← Array.length_toList, underway.worksheets, List.length_append, List.length_map,
        List.length_append, Array.length_toList]
      rfl
    rw [List.map_append, map_fst_warnFirst, underway.numbers, List.length_append,
      List.length_singleton, List.range'_1_concat (n := closed.length + 1), ← size]
    rfl
  · rw [List.map_append]
    exact map_snd_warnFirst underway.reports (by simp) ⟨worksheet, []⟩

theorem getLast?_numbers {parts : List (Nat × Report)} {base count : Nat}
    (numbers : parts.map Prod.fst = List.range' base (count + 1)) :
    (parts.getLast?.map Prod.fst).getD 0 = base + count := by
  rw [← List.getLast?_map, numbers, List.range'_1_concat, List.getLast?_concat, Option.getD_some]

/-- A row is written on the last page. -/
theorem exists_underway_row (cells : List Cell)
    (underway : Underway options sheet header w₀ w p closed last) :
    ∃ worksheet w',
      (writeCells ((p.parts.getLast?.map Prod.fst).getD 0) (headerRows header + p.rowInPart)
        sheet.columns cells).run w = ((), w') ∧
      ∀ seen content, Underway options sheet header w₀ w'
        ⟨countRow p.parts, p.rowInPart + 1, seen, content⟩
        closed ⟨worksheet, last.rows ++ [cells]⟩ := by
  have number : (p.parts.getLast?.map Prod.fst).getD 0 =
      (w₀.worksheets.toList ++ closed.map Page.worksheet).length := by
    rw [getLast?_numbers underway.numbers, List.length_append, List.length_map]
    rfl
  have draws := draws_writeCells ((p.parts.getLast?.map Prod.fst).getD 0)
    (headerRows header + p.rowInPart) sheet.columns cells w
  cases run : (writeCells ((p.parts.getLast?.map Prod.fst).getD 0)
    (headerRows header + p.rowInPart) sheet.columns cells).run w with
  | mk done w' =>
  rw [run] at draws
  obtain ⟨calls, drawn, worksheets⟩ := draws.worksheets
  obtain ⟨first, reportsWith⟩ := exists_reportsOf_append sheet header
    (pageLimit options header) closed last.worksheet.name
  have reports := underway.reports
  rw [reportsWith last rfl] at reports
  obtain ⟨parts, others, split, before, lastPart⟩ := List.map_eq_append_iff.mp reports
  obtain ⟨⟨n, report⟩, rfl, isReport⟩ := List.map_eq_singleton_iff.mp lastPart
  have counted : countRow p.parts = parts ++ [(n, { report with rows := report.rows + 1 })] := by
    rw [split, countRow_append]
  refine ⟨last.worksheet.extend calls, w', rfl, fun seen content => ⟨?_, ?_, ?_, ?_, ?_, ?_, ?_⟩⟩
  · rw [worksheets, underway.worksheets, number, List.map_append, List.map_append,
      ← List.append_assoc, ← List.append_assoc]
    exact modify_append_length _ _ _ _
  · intro page member
    rcases List.mem_append.mp member with before | isLast
    · exact (underway.drawn page (List.mem_append_left _ before)).mono draws.formats
    · rw [List.mem_singleton.mp isLast]
      rw [underway.rowInPart] at drawn
      exact Page.Drawn.row
        ((underway.drawn last (List.mem_append_right _ List.mem_cons_self)).mono draws.formats)
        drawn
  · rw [draws.added, underway.formats, ← formatsAfter_append, List.flatMap_append,
      List.flatMap_append, List.flatMap_singleton, List.flatMap_singleton, pageMarks_row,
      ← List.append_assoc, ← underway.rowInPart]
  · rw [counted, ← underway.numbers, split, List.map_append, List.map_append]
    rfl
  · subst isReport
    rw [counted, List.map_append, before,
      reportsWith ⟨last.worksheet.extend calls, last.rows ++ [cells]⟩ rfl]
    simp [Page.report]
  · rw [underway.rowInPart, List.length_append]
    rfl
  · exact draws.reports.trans underway.kept

/-- How many rows were seen and the content's widths, with one more row. -/
def measureRow (fit : FitPolicy) (columns : List Column) (measured : Nat × List Nat)
    (cells : List Cell) : Nat × List Nat :=
  (measured.1 + 1,
    if fit.counts measured.1 then widen measured.2 columns cells else measured.2)

/-- Once there is room for the row, writing it writes its cells, and counts and measures it. -/
theorem run_writeRow {name : List Char} {cells : List Cell} {p₁ : Progress} {w₁ : Workbook}
    (continued : (if pageLimit options header ≤ p.rowInPart then
      continuePart options sheet header name (pageLimit options header) p else pure p).run w =
        (p₁, w₁))
    (written : (writeCells ((p₁.parts.getLast?.map Prod.fst).getD 0)
      (headerRows header + p₁.rowInPart) sheet.columns cells).run w₁ = ((), w')) :
    (writeRow options sheet header name p cells).run w =
      (⟨countRow p₁.parts, p₁.rowInPart + 1, p₁.seen + 1,
        if options.fit.counts p₁.seen then widen p₁.content sheet.columns cells
          else p₁.content⟩, w') := by
  unfold writeRow
  by_cases isFull : pageLimit options header ≤ p.rowInPart
  · rw [if_pos isFull] at continued
    exact (congrArg (StateT.run · w) (if_pos isFull)).trans
      (run_bind_eq continued (run_bind_eq written rfl))
  · rw [if_neg isFull] at continued
    exact (congrArg (StateT.run · w) (if_neg isFull)).trans
      (run_bind_eq continued (run_bind_eq written rfl))

/-- Where a row goes: to the last page, or to a further one if that is full. -/
inductive Placed (limit : Int) (closed : List Page) (last : Page) (cells : List Cell) :
    List Page → Page → Prop
  | here (room : ¬ limit ≤ last.rows.length) (worksheet : Worksheet) :
      Placed limit closed last cells closed ⟨worksheet, last.rows ++ [cells]⟩
  | further (full : limit ≤ last.rows.length) (worksheet : Worksheet) :
      Placed limit closed last cells (closed ++ [last]) ⟨worksheet, [cells]⟩

/-- **One more row** is placed and measured. -/
theorem exists_underway_writeRow (name : List Char) (cells : List Cell)
    (underway : Underway options sheet header w₀ w p closed last) :
    ∃ p' w' closed' last', (writeRow options sheet header name p cells).run w = (p', w') ∧
      Underway options sheet header w₀ w' p' closed' last' ∧
      Placed (pageLimit options header) closed last cells closed' last' ∧
      (p'.seen, p'.content) = measureRow options.fit sheet.columns (p.seen, p.content) cells := by
  by_cases isFull : pageLimit options header ≤ p.rowInPart
  · obtain ⟨worksheet, p₁, w₁, continued, underway₁, seen, content⟩ :=
      exists_underway_continuePart name underway
    obtain ⟨worksheet', w', written, underway'⟩ := exists_underway_row cells underway₁
    have run : (writeRow options sheet header name p cells).run w = _ :=
      run_writeRow (by rw [if_pos isFull, continued]) written
    rw [underway.rowInPart] at isFull
    refine ⟨_, w', _, _, run, underway' _ _, .further isFull worksheet', ?_⟩
    rw [measureRow, seen, content]
  · obtain ⟨worksheet, w', written, underway'⟩ := exists_underway_row cells underway
    have run : (writeRow options sheet header name p cells).run w = _ :=
      run_writeRow (by rw [if_neg isFull]; rfl) written
    rw [underway.rowInPart] at isFull
    exact ⟨_, w', _, _, run, underway' _ _, .here isFull worksheet, rfl⟩

/-- **The run over all rows** keeps what one row keeps that is placed, and measures them all. -/
theorem exists_underway_rows (name : List Char) (more : List (List Cell))
    {I : List (List Cell) → List Page → Page → Prop}
    (keeps : ∀ rows closed last cells closed' last',
      Placed (pageLimit options header) closed last cells closed' last' → I rows closed last →
        I (rows ++ [cells]) closed' last')
    (underway : Underway options sheet header w₀ w p closed last) (holds : I rows closed last) :
    ∃ p' w' closed' last',
      (more.foldlM (writeRow options sheet header name) p).run w = (p', w') ∧
      Underway options sheet header w₀ w' p' closed' last' ∧ I (rows ++ more) closed' last' ∧
      (p'.seen, p'.content) =
        more.foldl (measureRow options.fit sheet.columns) (p.seen, p.content) := by
  induction more generalizing w p closed last rows with
  | nil =>
    rw [List.append_nil]
    exact ⟨p, w, closed, last, rfl, underway, holds, rfl⟩
  | cons cells more ih =>
    obtain ⟨p₁, w₁, closed₁, last₁, written, underway₁, placed, measured⟩ :=
      exists_underway_writeRow name cells underway
    obtain ⟨p', w', closed', last', others, underway', holds', measured'⟩ :=
      ih underway₁ (keeps _ _ _ _ _ _ placed holds)
    refine ⟨p', w', closed', last', ?_, underway', ?_, ?_⟩
    · rw [List.foldlM_cons]
      exact run_bind_eq written others
    · rw [List.append_assoc] at holds'
      exact holds'
    · rw [List.foldl_cons, ← measured]
      exact measured'

/-- The pages have the rows so far, in order. -/
theorem Placed.rows_eq {cells : List Cell} {closed' : List Page} {last' : Page}
    (placed : Placed limit closed last cells closed' last')
    (before : closed.flatMap Page.rows ++ last.rows = rows) :
    closed'.flatMap Page.rows ++ last'.rows = rows ++ [cells] := by
  subst before
  cases placed with
  | here => exact (List.append_assoc _ _ _).symm
  | further => rw [List.flatMap_append, List.flatMap_singleton]

/-- A row that is placed leaves all pages but the last full. -/
theorem Filled.placed {cells : List Cell} {closed' : List Page} {last' : Page}
    (room : 0 < limit) (placed : Placed limit closed last cells closed' last')
    (filled : Filled limit rows closed last) : Filled limit (rows ++ [cells]) closed' last' := by
  refine ⟨placed.rows_eq filled.rows, ?_, ?_, ?_⟩
  · cases placed with
    | here => exact filled.full
    | further isFull =>
      rw [List.forall_mem_append, List.forall_mem_singleton]
      exact ⟨filled.full, Int.le_antisymm filled.fits isFull⟩
  · cases placed with
    | here notFull =>
      rw [List.length_append, List.length_singleton]
      omega
    | further => exact room
  · intro _
    cases placed with
    | here => simp
    | further => exact List.cons_ne_nil _ _

end Steps

/-! ### The end of a sheet -/

/-- Setting the widths on one worksheet. -/
theorem draws_widths (number : Nat) (widths : List Int) (w : Workbook) :
    Draws number ((widthCalls widths).map .plain) w
      ((((List.range widths.length).zip widths).forM fun (position, width) =>
        callOn number (.width position position width)).run w).2 := by
  rw [widthCalls, List.map_map, List.map_eq_flatMap]
  exact draws_forM (fun _ _ w => draws_callOn _ _ w) w

/-- Setting the widths on all worksheets of a sheet. -/
theorem exists_widths (widths : List Int) {parts : List (Nat × Report)}
    {before sheets : List Worksheet} {w : Workbook}
    (numbers : parts.map Prod.fst = List.range' before.length sheets.length)
    (worksheets : w.worksheets.toList = before ++ sheets) :
    ∃ w', (parts.forM fun (number, _) =>
        ((List.range widths.length).zip widths).forM fun (position, width) =>
          callOn number (.width position position width)).run w = ((), w') ∧
      w'.worksheets.toList = before ++ sheets.map (·.extend (widthCalls widths)) ∧
      w'.formats = w.formats ∧ w'.reports = w.reports := by
  induction sheets generalizing parts before w with
  | nil =>
    rw [List.length_nil, List.range'_zero, List.map_eq_nil_iff] at numbers
    subst numbers
    exact ⟨w, rfl, worksheets, rfl, rfl⟩
  | cons worksheet sheets ih =>
    rw [List.length_cons, List.range'_succ, List.map_eq_cons_iff] at numbers
    obtain ⟨⟨number, report⟩, parts, rfl, rfl, numbers⟩ := numbers
    have draws := draws_widths before.length widths w
    obtain ⟨calls, drawn, first⟩ := draws.worksheets
    rw [eq_of_forall₂_plain drawn, worksheets, modify_append_length, List.append_cons] at first
    have next : parts.map Prod.fst =
        List.range' (before ++ [worksheet.extend (widthCalls widths)]).length sheets.length := by
      rw [List.length_append]
      exact numbers
    obtain ⟨w', run, others, formats, reports⟩ := ih next first
    refine ⟨w', run_bind_eq rfl run, ?_, ?_, reports.trans draws.reports⟩
    · rw [others, List.map_cons, ← List.append_cons]
    · rw [formats, draws.added, formatsAfter_plain]

/-- **Finishing a sheet** sets the same widths on all its pages and keeps their reports. -/
theorem exists_finishSheet {w₀ w : Workbook} {p : Progress} {closed : List Page} {last : Page}
    (underway : Underway options sheet header w₀ w p closed last) :
    let widths := columnWidths options.fit sheet.columns p.content
    ∃ w', (finishSheet options sheet p).run w = ((), w') ∧
      w'.worksheets.toList = w₀.worksheets.toList ++
        ((closed ++ [last]).map (Page.extend · (widthCalls widths))).map Page.worksheet ∧
      (∀ page ∈ (closed ++ [last]).map (Page.extend · (widthCalls widths)),
        page.Drawn options sheet header w'.formats (widthCalls widths)) ∧
      w'.formats = w.formats ∧
      w'.reports = w₀.reports ++
        reportsOf sheet header (pageLimit options header) (closed ++ [last]) := by
  have numbers : p.parts.map Prod.fst = List.range' w₀.worksheets.toList.length
      ((closed ++ [last]).map Page.worksheet).length := by
    rw [underway.numbers, List.length_map, List.length_append]
    rfl
  obtain ⟨w₁, run, worksheets, formats, reports⟩ := exists_widths
    (columnWidths options.fit sheet.columns p.content) numbers underway.worksheets
  refine ⟨_, run_bind_eq run rfl, ?_, ?_, formats, ?_⟩
  · rw [List.map_map]
    rw [List.map_map] at worksheets
    exact worksheets
  · intro page member
    obtain ⟨before, isPage, rfl⟩ := List.mem_map.mp member
    have drawn := underway.drawn before isPage
    rw [← formats] at drawn
    exact drawn.extend _
  · show w₁.reports ++ p.parts.map Prod.snd = _
    rw [reports, underway.kept, underway.reports]

/-- The rows of a sheet are on pages behind the worksheets that the workbook had. -/
structure Paginated (options : WriteOptions) (sheet : Sheet) (header : Option HeaderPlan)
    (rows : List (List Cell)) (w w' : Workbook) (pages : List Page) : Prop where
  worksheets : w'.worksheets.toList = w.worksheets.toList ++ pages.map Page.worksheet
  /-- There is a page even for no rows. -/
  some : pages ≠ []
  rows : pages.flatMap Page.rows = rows
  full : ∀ page ∈ pages.dropLast, (page.rows.length : Int) = pageLimit options header
  begun : ∀ page ∈ pages.tail, page.rows ≠ []
  /-- No page has more rows than a worksheet can have. -/
  fits : ∀ page ∈ pages, (headerRows header + page.rows.length : Int) ≤ options.maxRows
  /-- All pages have the same header, their own rows, and the same widths. -/
  drawn : ∃ widths, ∀ page ∈ pages,
    page.Drawn options sheet header w'.formats (widthCalls widths)
  /-- The calls cover every cell of the page's rows once. -/
  covers : ∀ page ∈ pages, page.worksheet.calls.toList.flatMap SheetCall.cells =
    grid 0 (headerRows header + page.rows.length) sheet.columns.length
  ascending : ∀ page ∈ pages,
    (page.worksheet.calls.toList.filterMap SheetCall.place?).Pairwise Precedes
  reports : w'.reports = w.reports ++ reportsOf sheet header (pageLimit options header) pages

/-- Filled pages with their worksheets finished. -/
theorem Filled.pages {limit : Int} {rows : List (List Cell)} {closed : List Page} {last : Page}
    (filled : Filled limit rows closed last) (room : 0 < limit) (calls : List SheetCall) :
    ((closed ++ [last]).map (Page.extend · calls)).flatMap Page.rows = rows ∧
      (∀ page ∈ ((closed ++ [last]).map (Page.extend · calls)).dropLast,
        (page.rows.length : Int) = limit) ∧
      (∀ page ∈ ((closed ++ [last]).map (Page.extend · calls)).tail, page.rows ≠ []) ∧
      ∀ page ∈ (closed ++ [last]).map (Page.extend · calls),
        (page.rows.length : Int) ≤ limit := by
  have some : ∀ page ∈ closed, page.rows ≠ [] := fun page member empty => by
    have count := filled.full page member
    rw [empty] at count
    exact absurd room (by rw [← count]; decide)
  refine ⟨?_, ?_, ?_, ?_⟩
  · rw [List.flatMap_map, ← filled.rows, List.flatMap_append, List.flatMap_singleton]
    rfl
  · rw [List.map_append, List.map_singleton, List.dropLast_concat]
    exact List.forall_mem_map.mpr filled.full
  · cases closed with
    | nil => simp
    | cons first closed =>
      rw [List.cons_append, List.map_cons, List.tail_cons, List.map_append, List.forall_mem_append]
      refine ⟨List.forall_mem_map.mpr fun page member => some page (List.mem_cons_of_mem _ member),
        List.forall_mem_singleton.mpr (filled.begun (List.cons_ne_nil _ _))⟩
  · rw [List.forall_mem_map, List.forall_mem_append]
    exact ⟨fun page member => Int.le_of_eq (filled.full page member),
      List.forall_mem_singleton.mpr filled.fits⟩

/-- **Writing rows** puts them on pages. -/
theorem exists_paginated (name : List Char) {rows : List (List Cell)} (w : Workbook)
    (planned : ∀ plan, header = some plan → plan = planHeader sheet.columns)
    (lengths : ∀ cells ∈ rows, cells.length = sheet.columns.length)
    (room : 0 < pageLimit options header) :
    ∃ pages w', (writeRows options sheet header name rows true).run w = ((), w') ∧
      Paginated options sheet header rows w w' pages := by
  obtain ⟨part, worksheet, w₁, opened, underway₁⟩ := exists_underway_start options sheet header
    name w (headerContent sheet.columns header)
  have filled₁ : Filled (pageLimit options header) [] [] ⟨worksheet, []⟩ :=
    ⟨rfl, by simp, Int.le_of_lt room, fun some => absurd rfl some⟩
  obtain ⟨p, w₂, closed, last, written, underway, filled, _⟩ :=
    exists_underway_rows name rows (fun _ _ _ _ _ _ => Filled.placed room) underway₁ filled₁
  rw [List.nil_append] at filled
  obtain ⟨w', finished, worksheets, drawn, _, reports⟩ := exists_finishSheet underway
  let widths := columnWidths options.fit sheet.columns p.content
  obtain ⟨kept, full, begun, fits⟩ := filled.pages room (widthCalls widths)
  have covers : ∀ page ∈ (closed ++ [last]).map (Page.extend · (widthCalls widths)), _ :=
    fun page member => covers_of_drawn planned
      (fun cells inPage => lengths cells (kept ▸ List.mem_flatMap.mpr ⟨page, member, inPage⟩))
      (drawn page member)
  refine ⟨(closed ++ [last]).map (Page.extend · (widthCalls widths)), w',
    run_bind_eq opened (run_bind_eq written finished), worksheets, by simp, kept, full, begun,
    fun page member => ?_, ⟨widths, drawn⟩, fun page member => (covers page member).1,
    fun page member => (covers page member).2, by rw [reports, reportsOf_extend]⟩
  have below := fits page member
  unfold pageLimit at below
  omega

/-! ### What a sheet leaves, whatever its rows and limits are -/

/-- The rows are on pages behind the worksheets that the workbook had. -/
structure Written (more : List SheetCall) (options : WriteOptions) (sheet : Sheet)
    (header : Option HeaderPlan) (rows : List (List Cell)) (w w' : Workbook) (pages : List Page) :
    Prop where
  worksheets : w'.worksheets.toList = w.worksheets.toList ++ pages.map Page.worksheet
  some : pages ≠ []
  rows : pages.flatMap Page.rows = rows
  drawn : ∀ page ∈ pages, page.Drawn options sheet header w'.formats more
  formats : w'.formats = formatsAfter w.formats (pages.flatMap (pageMarks options sheet header))

/-- The widths of the content, measured over the header and the rows. -/
def contentWidths (options : WriteOptions) (sheet : Sheet) (header : Option HeaderPlan)
    (rows : List (List Cell)) : List Nat :=
  (rows.foldl (measureRow options.fit sheet.columns)
    (0, headerContent sheet.columns header)).2

/-- The widths that are set when a sheet is complete. -/
def finalWidths (options : WriteOptions) (sheet : Sheet) (header : Option HeaderPlan)
    (rows : List (List Cell)) : List Int :=
  columnWidths options.fit sheet.columns (contentWidths options sheet header rows)

theorem flatMap_pageMarks_extend (pages : List Page) (calls : List SheetCall) :
    (pages.map (Page.extend · calls)).flatMap (pageMarks options sheet header) =
      pages.flatMap (pageMarks options sheet header) := by
  rw [List.flatMap_map]
  rfl

/-- **Writing rows** puts them on pages; the widths are set if the sheet is complete. -/
theorem exists_written (options : WriteOptions) (sheet : Sheet) (header : Option HeaderPlan)
    (name : List Char) (rows : List (List Cell)) (complete : Bool) (w : Workbook) :
    ∃ pages, Written
      (if complete then widthCalls (finalWidths options sheet header rows) else [])
      options sheet header rows w
      ((writeRows options sheet header name rows complete).run w).2 pages := by
  obtain ⟨part, worksheet, w₁, opened, underway₁⟩ := exists_underway_start options sheet header
    name w (headerContent sheet.columns header)
  obtain ⟨p, w₂, closed, last, written, underway, isRows, measured⟩ :=
    exists_underway_rows name rows
      (I := fun rows closed last => closed.flatMap Page.rows ++ last.rows = rows)
      (fun _ _ _ _ _ _ => Placed.rows_eq) underway₁ rfl
  have content : p.content = contentWidths options sheet header rows := congrArg Prod.snd measured
  cases complete with
  | false =>
    have run : (writeRows options sheet header name rows false).run w = ((), w₂) :=
      run_bind_eq opened (run_bind_eq written rfl)
    rw [run]
    refine ⟨closed ++ [last], underway.worksheets, by simp, ?_, underway.drawn, underway.formats⟩
    rw [List.flatMap_append, List.flatMap_singleton]
    exact isRows
  | true =>
    obtain ⟨w', finished, worksheets, drawn, formats, _⟩ := exists_finishSheet underway
    have run : (writeRows options sheet header name rows true).run w = ((), w') :=
      run_bind_eq opened (run_bind_eq written finished)
    rw [content] at worksheets drawn
    rw [run]
    refine ⟨_, worksheets, by simp, ?_, drawn, ?_⟩
    · rw [List.flatMap_map, List.flatMap_append, List.flatMap_singleton]
      exact isRows
    · rw [formats, underway.formats, flatMap_pageMarks_extend]

end Workbook

/-! ### Writing a sheet -/

theorem planHeader_rows_le (columns : List Column) : (planHeader columns).rows ≤ 2 := by
  unfold planHeader
  simp only
  split
  · exact Nat.le_refl _
  · exact Nat.le_succ _

namespace Desk

variable {d d' : Desk} {options : WriteOptions} {m : MergedSheet}

theorem of_onWorkspace {α : Type} {x : WorkspaceM α} {a : α}
    (yields : Yields (onWorkspace x) d a d') :
    Yields x d.workspace a d'.workspace ∧ d'.workbook = d.workbook := by
  have outcome : ((x.run.run d.workspace).1,
      { d with workspace := (x.run.run d.workspace).2 }) = (Except.ok a, d') := yields
  obtain ⟨result, rfl⟩ := Prod.mk.inj outcome
  exact ⟨Prod.ext result rfl, rfl⟩

theorem of_onWorkbook {α : Type} {x : WorkbookM α} {a : α}
    (yields : Yields (onWorkbook x) d a d') :
    x.run d.workbook = (a, d'.workbook) ∧ d'.workspace = d.workspace := by
  have outcome : ((Except.ok (x.run d.workbook).1 : Except Failure α),
      { d with workbook := (x.run d.workbook).2 }) = (Except.ok a, d') := yields
  obtain ⟨result, rfl⟩ := Prod.mk.inj outcome
  exact ⟨Prod.ext (Except.ok.inj result) rfl, rfl⟩

/-- A worksheet's name costs a warning at most. -/
theorem of_sheetName {declared : String} {name : List Char}
    (yields : Yields (sheetName declared) d name d') :
    d'.workbook = d.workbook ∧
      ∃ catalog, d'.workspace = { d.workspace with catalog := catalog } := by
  unfold sheetName at yields
  split at yields
  · exact absurd yields (not_yields_throw _)
  · split at yields
    · obtain ⟨_, d₁, warned, last⟩ := yields_bind_iff.mp yields
      obtain ⟨_, rfl⟩ := yields_pure_iff.mp last
      obtain ⟨warns, workbook⟩ := of_onWorkspace warned
      obtain ⟨_, same⟩ := Prod.mk.inj warns
      exact ⟨workbook, _, same.symm⟩
    · obtain ⟨_, rfl⟩ := yields_pure_iff.mp yields
      exact ⟨rfl, _, rfl⟩

/-- A sheet that is written has all rows written that are pulled of it. -/
theorem exists_of_writeSheet (written : Yields (writeSheet options m) d () d') :
    ∃ catalog rows name,
      Workspace.Pulls m { d.workspace with catalog := catalog } rows d'.workspace ∧
      (Workbook.writeRows options m.sheet m.header? name rows true).run d.workbook =
        ((), d'.workbook) := by
  unfold writeSheet at written
  split at written
  · exact absurd written (not_yields_throw _)
  obtain ⟨name, d₁, named, written⟩ := yields_bind_iff.mp written
  obtain ⟨workbook₁, catalog, workspace₁⟩ := of_sheetName named
  obtain ⟨⟨rows, failure⟩, d₂, taken, written⟩ := yields_bind_iff.mp written
  obtain ⟨taken, workbook₂⟩ := of_onWorkspace taken
  obtain ⟨_, d₃, drawn, written⟩ := yields_bind_iff.mp written
  obtain ⟨drawn, workspace₃⟩ := of_onWorkbook drawn
  cases failure with
  | some failure => exact absurd written (not_yields_throw _)
  | none =>
    obtain ⟨_, rfl⟩ := yields_pure_iff.mp written
    have ran : (Workspace.takeAllRows m).run d₁.workspace = ((rows, none), d₂.workspace) := by
      have outcome : ((Except.ok ((Workspace.takeAllRows m).run d₁.workspace).1 : Except Failure _),
          ((Workspace.takeAllRows m).run d₁.workspace).2) =
          (Except.ok (rows, none), d₂.workspace) := taken
      obtain ⟨result, after⟩ := Prod.mk.inj outcome
      exact Prod.ext (Except.ok.inj result) after
    rw [workspace₁] at ran
    rw [workbook₂, workbook₁] at drawn
    rw [workspace₃]
    exact ⟨catalog, rows, name, Workspace.pulls_of_takeAllRows ran, drawn⟩

/-- **A sheet that is written** has all its rows, as they are pulled, on its pages. The layout of a
merged sheet has an entry for each column (`Workspace.of_merge`). -/
theorem writeSheet_pages (layout : m.layout.length = m.sheet.columns.length)
    (room : 2 < options.maxRows) (written : Yields (writeSheet options m) d () d') :
    ∃ catalog rows pages,
      Workspace.Pulls m { d.workspace with catalog := catalog } rows d'.workspace ∧
      Workbook.Paginated options m.sheet m.header? rows d.workbook d'.workbook pages := by
  obtain ⟨catalog, rows, name, pulls, drawn⟩ := exists_of_writeSheet written
  have planned : ∀ plan, m.header? = some plan → plan = planHeader m.sheet.columns := by
    intro plan hasPlan
    unfold MergedSheet.header? at hasPlan
    split at hasPlan
    · exact (Option.some.inj hasPlan).symm
    · cases hasPlan
  have enough : 0 < pageLimit options m.header? := by
    have short : headerRows m.header? ≤ 2 := by
      unfold headerRows
      cases header : m.header? with
      | none => exact Nat.zero_le _
      | some plan => exact planned plan header ▸ planHeader_rows_le _
    unfold pageLimit
    omega
  obtain ⟨pages, w', run, paginated⟩ := Workbook.exists_paginated name d.workbook planned
    (pulls.lengths layout) enough
  have same : w' = d'.workbook := by
    have outcome := drawn.symm.trans run
    exact (Prod.mk.inj outcome).2.symm
  refine ⟨catalog, rows, pages, pulls, ?_⟩
  rw [← same]
  exact paginated

/-- A sheet of one column with two records, in a workspace that holds them. -/
def sampleMerged : MergedSheet :=
  ⟨Workspace.sampleSheet "left" "a" 1,
    [⟨1, Workspace.sampleType, Workspace.sampleSheet "left" "a" 1⟩], [0], 0⟩

def sampleDesk : Desk := ⟨{ Workspace.sampleCopied with nextReading := 2 }, .empty⟩

/-- Worksheets that are full with the header and two rows. -/
def sampleOptions : WriteOptions := { maxRows := 3 }

theorem exists_yields_writeSheet_sample :
    ∃ d', Yields (writeSheet sampleOptions sampleMerged) sampleDesk () d' := by
  have named : Yields (sheetName "left") sampleDesk "left".toList sampleDesk := rfl
  obtain ⟨rows, d₁, taken⟩ : ∃ rows d₁, Yields
      (onWorkspace (Workspace.takeAllRows sampleMerged : StateM Workspace _)) sampleDesk
        (rows, none) d₁ := ⟨_, _, rfl⟩
  obtain ⟨d', drawn⟩ : ∃ d', Yields (onWorkbook (Workbook.writeRows sampleOptions
      sampleMerged.sheet sampleMerged.header? "left".toList rows true)) d₁ () d' := ⟨_, rfl⟩
  exact ⟨d', named.bind (taken.bind (drawn.bind (.pure _ _)))⟩

/-- The two records are on pages. -/
theorem writeSheet_pages_sample : ∃ (d' : Desk) (catalog : Catalog) (rows : List (List Cell))
    (pages : List Page),
    Workspace.Pulls sampleMerged { sampleDesk.workspace with catalog := catalog } rows
      d'.workspace ∧
    Workbook.Paginated sampleOptions sampleMerged.sheet sampleMerged.header? rows
      sampleDesk.workbook d'.workbook pages := by
  obtain ⟨d', written⟩ := exists_yields_writeSheet_sample
  exact ⟨d', writeSheet_pages rfl (by decide) written⟩

end Desk

end SheetExport
