/-
**What is left of a mapping of sources that is refused.**

A failure of the library itself has a code (`Failure.IsCoded`). Rows never fail with one
(`failsOnly_nextRow`), so once all sheets are prepared and narrow enough, the one coded failure left
is a name of which nothing remains (`refused_of_writeSheet`).

* `StoppedAtName` — some sheets were written, and the name of the next one cannot be used;
* `Desk.lt_size_of_writeSheet`: a sheet that is written adds a worksheet;
* `Desk.writeSheets_untouched_iff`: a coded failure leaves the workbook as it was, unless it is the
  name of a sheet behind one that was written.
-/

import SheetExport.Proofs.Upholding
import SheetExport.Proofs.Workbook.Paging

namespace SheetExport

/-- The failure is one of the library itself, which has a code. -/
def Failure.IsCoded (f : Failure) : Prop := f.detail?.isSome = true

/-- A fault of a record's own code has no code. -/
theorem Failure.not_isCoded_fault (fault : Fault) : ¬ (Failure.fault fault).IsCoded :=
  Bool.false_ne_true

/-! ### Rows fail without a code -/

namespace Workspace

variable {m : MergedSheet} {w w' : Workspace}

theorem failsOnly_endReading {P : Failure → Prop} (reading : Nat) :
    FailsOnly P (endReading reading) := by
  intro w failure w' fails
  cases (Prod.mk.inj fails).1

theorem failsOnly_hasNext (reading : Nat) (entry : SheetEntry) :
    FailsOnly (¬ ·.IsCoded) (hasNext reading entry) := by
  refine .bind (failsOnly_onStream _ _) fun outcome => ?_
  cases outcome with
  | ok found => exact .pure found
  | error fault =>
    exact .bind (failsOnly_endReading _) fun _ => .throw (Failure.not_isCoded_fault fault)

theorem failsOnly_nextRecord (reading : Nat) (entry : SheetEntry) :
    FailsOnly (¬ ·.IsCoded) (nextRecord reading entry) := by
  refine .bind (failsOnly_onStream _ _) fun outcome => ?_
  cases outcome with
  | ok record => exact .pure record
  | error stop =>
    refine .bind (failsOnly_endReading _) fun _ => ?_
    cases stop with
    | exhausted => exact .throw Bool.false_ne_true
    | failed fault => exact .throw (Failure.not_isCoded_fault fault)

theorem failsOnly_nextRecords (m : MergedSheet) : FailsOnly (¬ ·.IsCoded) (nextRecords m) := by
  unfold nextRecords
  refine .bind (fun _ _ _ fails => nomatch (Prod.mk.inj fails).1) fun w => ?_
  split
  · exact .pure none
  · refine .bind (.mapM fun entry _ => failsOnly_hasNext _ entry) fun available => ?_
    split
    · refine .bind (.mapM fun asked _ => ?_) fun records => .pure _
      obtain ⟨entry, found⟩ := asked
      cases found with
      | true => exact .bind (failsOnly_nextRecord _ entry) fun record => .pure _
      | false => exact .pure none
    · exact .bind (failsOnly_endReading _) fun _ => .pure none

/-- **A row fails without a code**: by a fault, or as its stream ended meanwhile. -/
theorem failsOnly_nextRow (m : MergedSheet) : FailsOnly (¬ ·.IsCoded) (nextRow m) := by
  refine .bind (failsOnly_nextRecords m) fun found => ?_
  cases found with
  | none => exact .pure none
  | some records =>
    simp only
    split
    · exact .pure _
    · rename_i fault _
      exact .throw (Failure.not_isCoded_fault fault)

/-- What stops the taking of rows has no code. -/
theorem not_isCoded_of_takeRows {count : Nat} {rows : List (List Cell)} {failure : Failure}
    (taken : (takeRows m count).run w = ((rows, some failure), w')) : ¬ failure.IsCoded := by
  induction count generalizing w rows with
  | zero => cases taken
  | succ count ih =>
    rw [run_takeRows_succ] at taken
    cases outcome : (nextRow m).run.run w with
    | mk found w₁ =>
      rw [outcome] at taken
      rcases found with stopped | _ | row
      · cases taken
        exact failsOnly_nextRow m outcome
      · cases taken
      · obtain ⟨both, last⟩ := Prod.mk.inj taken
        obtain ⟨_, stops⟩ := Prod.mk.inj both
        exact ih (Prod.ext (Prod.ext rfl stops) last)

end Workspace

/-! ### A sheet that is written adds a worksheet -/

namespace Workbook

variable {w w' : Workbook}

/-- Drawing on a worksheet adds none. -/
theorem Draws.size_eq {number : Nat} {marks : List Mark} (draws : Draws number marks w w') :
    w'.worksheets.size = w.worksheets.size := by
  obtain ⟨calls, _, worksheets⟩ := draws.worksheets
  rw [← Array.length_toList, worksheets, List.length_modify, Array.length_toList]

theorem size_addPart (options : WriteOptions) (sheet : Sheet) (header : Option HeaderPlan)
    (name : List Char) (w : Workbook) :
    ((addPart options sheet header name).run w).2.worksheets.size = w.worksheets.size + 1 := by
  obtain ⟨worksheet, w', run, worksheets, _⟩ := exists_addPart options sheet header name w
  rw [run, ← Array.length_toList, worksheets, List.length_append, Array.length_toList]
  rfl

/-- Neither drawing nor reporting ends the invariant. -/
structure Lasting (I : Workbook → Prop) : Prop where
  draws : ∀ ⦃number marks w w'⦄, Draws number marks w w' → I w → I w'
  reports : ∀ ⦃w : Workbook⦄ reports, I w → I { w with reports := reports }

section Lasting

variable {I : Workbook → Prop} {options : WriteOptions} {sheet : Sheet}
  {header : Option HeaderPlan} {name : List Char}

theorem Lasting.writeRow (lasting : Lasting I)
    (adds : Keeps I (addPart options sheet header name)) (p : Progress) (cells : List Cell) :
    Keeps I (writeRow options sheet header name p cells) := by
  have written : ∀ number row, Keeps I (writeCells number row sheet.columns cells) :=
    fun number row w => lasting.draws (draws_writeCells number row _ _ w)
  unfold Workbook.writeRow
  dsimp only
  split
  · exact .bind (.bind adds fun part => .pure _) fun p₁ => .bind (written _ _) fun _ => .pure _
  · exact .bind (.pure p) fun p₁ => .bind (written _ _) fun _ => .pure _

theorem Lasting.finishSheet (lasting : Lasting I) (p : Progress) :
    Keeps I (finishSheet options sheet p) := by
  refine .bind (.forM (fun part => .forM (fun width w => ?_) _) _) fun _ w => ?_
  · exact lasting.draws (draws_callOn _ _ w)
  · exact lasting.reports _

/-- What holds when the first worksheet of a sheet is added, and holds on with each further one,
holds when its rows are written. -/
theorem Lasting.writeRows (lasting : Lasting I)
    (adds : Keeps I (addPart options sheet header name)) (rows : List (List Cell))
    (complete : Bool) {w : Workbook} (first : I ((addPart options sheet header name).run w).2) :
    I ((writeRows options sheet header name rows complete).run w).2 := by
  unfold Workbook.writeRows
  rw [StateT.run_bind]
  refine Keeps.bind (.foldlM (fun p cells => lasting.writeRow adds p cells) _ _) (fun p => ?_) first
  split
  · exact lasting.finishSheet p
  · exact .pure ()

end Lasting

theorem lasting_size (n : Nat) : Lasting fun w => n ≤ w.worksheets.size :=
  ⟨fun _ _ _ _ draws before => draws.size_eq ▸ before, fun _ _ before => before⟩

/-- **The rows of a sheet take a worksheet at least.** -/
theorem lt_size_writeRows (options : WriteOptions) (sheet : Sheet) (header : Option HeaderPlan)
    (name : List Char) (rows : List (List Cell)) (complete : Bool) (w : Workbook) :
    w.worksheets.size <
      ((writeRows options sheet header name rows complete).run w).2.worksheets.size := by
  have added := size_addPart options sheet header name
  refine (lasting_size (w.worksheets.size + 1)).writeRows (fun w' before => ?_) rows complete
    (Nat.le_of_eq (added w).symm)
  exact Nat.le_trans before (Nat.le_of_lt (Nat.lt_of_lt_of_eq (Nat.lt_succ_self _) (added w').symm))

end Workbook

/-! ### Where a mapping of sources is refused -/

namespace Desk

variable {d d' : Desk} {options : WriteOptions} {m : MergedSheet} {failure : Failure}
  {sources : List (String × Nat)} {strict : Bool}

theorem of_onWorkspace_fails {α : Type} {x : WorkspaceM α}
    (fails : Fails (onWorkspace x) d failure d') :
    Fails x d.workspace failure d'.workspace ∧ d'.workbook = d.workbook := by
  have outcome : ((x.run.run d.workspace).1,
      { d with workspace := (x.run.run d.workspace).2 }) = (Except.error failure, d') := fails
  obtain ⟨result, rfl⟩ := Prod.mk.inj outcome
  exact ⟨Prod.ext result rfl, rfl⟩

/-- A name is refused just when nothing remains of it, before anything is written. -/
theorem of_sheetName_fails {declared : String} (fails : Fails (sheetName declared) d failure d') :
    failure = .sheetName declared ∧ cleanSheetName declared.toList = none ∧ d' = d := by
  unfold sheetName at fails
  split at fails
  · rename_i nothing
    obtain ⟨rfl, rfl⟩ := fails_throw_iff.mp fails
    exact ⟨rfl, nothing, rfl⟩
  · split at fails
    · rcases fails_bind_iff.mp fails with warned | ⟨_, _, _, last⟩
      · cases (Prod.mk.inj (of_onWorkspace_fails warned).1).1
      · exact absurd last not_fails_pure
    · exact absurd fails not_fails_pure

/-- **A sheet that is written adds a worksheet.** -/
theorem lt_size_of_writeSheet (written : Yields (writeSheet options m) d () d') :
    d.workbook.worksheets.size < d'.workbook.worksheets.size := by
  unfold writeSheet at written
  split at written
  · exact absurd written (not_yields_throw _)
  obtain ⟨name, d₁, named, written⟩ := yields_bind_iff.mp written
  obtain ⟨⟨rows, stopped⟩, d₂, taken, written⟩ := yields_bind_iff.mp written
  obtain ⟨_, d₃, drawn, written⟩ := yields_bind_iff.mp written
  have workbook₂ : d₂.workbook = d.workbook :=
    (of_onWorkspace taken).2.trans (of_sheetName named).1
  have workbook₃ : d' = d₃ := by
    cases stopped with
    | some failure => exact absurd written (not_yields_throw _)
    | none => exact (yields_pure_iff.mp written).2
  have more := Workbook.lt_size_writeRows options m.sheet m.header? name rows stopped.isNone
    d₂.workbook
  rw [(of_onWorkbook drawn).1, workbook₂] at more
  rw [workbook₃]
  exact more

theorem size_le_of_writeAll {sheets : List MergedSheet}
    (written : Yields (sheets.forM (writeSheet options)) d () d') :
    d.workbook.worksheets.size + sheets.length ≤ d'.workbook.worksheets.size := by
  induction sheets generalizing d with
  | nil =>
    obtain ⟨_, rfl⟩ := yields_pure_iff.mp written
    exact Nat.le_refl _
  | cons m sheets ih =>
    obtain ⟨_, d₁, first, others⟩ := yields_bind_iff.mp written
    have one := lt_size_of_writeSheet first
    have rest := ih others
    rw [List.length_cons]
    omega

/-- **A sheet that is narrow enough is refused for its name only**, before anything of it is
written. -/
theorem refused_of_writeSheet (narrow : checkWidth options m = .ok ()) (coded : failure.IsCoded)
    (fails : Fails (writeSheet options m) d failure d') :
    failure = .sheetName m.sheet.name ∧ cleanSheetName m.sheet.name.toList = none ∧ d' = d := by
  unfold writeSheet at fails
  rw [narrow] at fails
  rcases fails_bind_iff.mp fails with named | ⟨name, d₁, named, fails⟩
  · exact of_sheetName_fails named
  rcases fails_bind_iff.mp fails with taken | ⟨⟨rows, stopped⟩, d₂, taken, fails⟩
  · cases (Prod.mk.inj (of_onWorkspace_fails taken).1).1
  rcases fails_bind_iff.mp fails with drawn | ⟨_, d₃, drawn, fails⟩
  · cases (Prod.mk.inj drawn).1
  -- What is left is the failure of a row, which has no code.
  cases stopped with
  | none => exact absurd fails not_fails_pure
  | some stop =>
    obtain ⟨rfl, _⟩ := fails_throw_iff.mp fails
    have outcome : ((Except.ok ((Workspace.takeAllRows m).run d₁.workspace).1 : Except Failure _),
        ((Workspace.takeAllRows m).run d₁.workspace).2) =
        (Except.ok (rows, some failure), d₂.workspace) := (of_onWorkspace taken).1
    obtain ⟨result, after⟩ := Prod.mk.inj outcome
    exact absurd coded
      (Workspace.not_isCoded_of_takeRows (Prod.ext (Except.ok.inj result) after))

/-- The sheets of the sources were prepared, some of them were written, and nothing remains of the
name of the next one. -/
structure StoppedAtName (options : WriteOptions) (sources : List (String × Nat)) (strict : Bool)
    (d d' : Desk) (failure : Failure) (written : List MergedSheet) (m : MergedSheet) : Prop where
  prepared : ∃ others w, Yields (Workspace.prepareSheets sources strict) d.workspace
    (written ++ m :: others) w ∧ Yields (written.forM (writeSheet options)) ⟨w, d.workbook⟩ () d'
  nameless : cleanSheetName m.sheet.name.toList = none
  failure : failure = .sheetName m.sheet.name

/-- A coded failure comes before anything is written, or from a name. -/
theorem untouched_or_stoppedAtName (coded : failure.IsCoded)
    (fails : Fails (writeSheets options sources strict) d failure d') :
    d'.workbook = d.workbook ∨
      ∃ written m, StoppedAtName options sources strict d d' failure written m := by
  unfold writeSheets at fails
  rcases fails_bind_iff.mp fails with unprepared | ⟨sheets, d₁, prepared, fails⟩
  · exact Or.inl (of_onWorkspace_fails unprepared).2
  obtain ⟨prepared, workbook₁⟩ := of_onWorkspace prepared
  split at fails
  · obtain ⟨_, rfl⟩ := fails_throw_iff.mp fails
    exact Or.inl workbook₁
  · rename_i narrow
    obtain ⟨written, m, others, d₂, rfl, before, stopped⟩ := exists_of_fails_forM fails
    have fits := forM_eq_ok_iff.mp narrow m (by simp)
    obtain ⟨name, nameless, rfl⟩ := refused_of_writeSheet fits coded stopped
    refine Or.inr ⟨written, m, ⟨others, d₁.workspace, prepared, ?_⟩, nameless, name⟩
    rw [← workbook₁]
    exact before

/-- **A coded failure leaves the workbook as it was**, its worksheets, formats, names and reports,
unless it is the name of a sheet behind one that was written. -/
theorem writeSheets_untouched_iff (coded : failure.IsCoded)
    (fails : Fails (writeSheets options sources strict) d failure d') :
    d'.workbook = d.workbook ↔
      ∀ written m, StoppedAtName options sources strict d d' failure written m → written = [] := by
  constructor
  · intro untouched written m stopped
    obtain ⟨others, w, _, before⟩ := stopped.prepared
    have more := size_le_of_writeAll before
    rw [untouched] at more
    exact List.eq_nil_of_length_eq_zero (by simp only at more; omega)
  · intro first
    rcases untouched_or_stoppedAtName coded fails with untouched | ⟨written, m, stopped⟩
    · exact untouched
    · cases first written m stopped
      obtain ⟨others, w, _, before⟩ := stopped.prepared
      obtain ⟨_, rfl⟩ := yields_pure_iff.mp before
      rfl

/-! ### Two sources, the second for a sheet of no usable name -/

/-- A type of records that are shown whole in the one column of a sheet. -/
def refusedType (name sheet : String) : RecordType :=
  { RecordType.ofName name with
    source := .schema ⟨some { name := sheet },
      [{ name := "n", column := some { header := "N", order := 1, accessor := some .display } }]⟩ }

/-- A source of one record. -/
def refusedSource (type : RecordType) (n : Int) : Supply :=
  ⟨.ofList [.object type [("n", .int n)]], none⟩

/-- Two sources, and nothing made or written yet. -/
def refusedDesk : Desk :=
  ⟨{ Workspace.empty with
    supplies := [refusedSource (refusedType "Orders" "Orders") 1,
      refusedSource (refusedType "Refunds" ":/?*") 2] }, .empty⟩

/-- The name that writing failed with, and how many worksheets and reports there are. -/
def refusal? : Except Failure Unit × Desk → Option (String × Nat × Nat)
  | (.error (.sheetName name), d) =>
    some (name, d.workbook.worksheets.size, d.workbook.reports.length)
  | _ => none

theorem exists_fails_of_refusal? {outcome : Except Failure Unit × Desk} {name : String}
    {worksheets reports : Nat} (refused : refusal? outcome = some (name, worksheets, reports)) :
    ∃ d', outcome = (.error (.sheetName name), d') ∧ d'.workbook.worksheets.size = worksheets ∧
      d'.workbook.reports.length = reports := by
  unfold refusal? at refused
  split at refused
  · cases refused
    exact ⟨_, rfl, rfl, rfl⟩
  · cases refused

theorem exists_fails_writeSheets_sample :
    ∃ d', Fails (writeSheets {} [("orders", 0), ("refunds", 1)] false) refusedDesk
        (.sheetName ":/?*") d' ∧
      d'.workbook.worksheets.size = 1 ∧ d'.workbook.reports.length = 1 :=
  exists_fails_of_refusal? (by decide +kernel)

/-- The refused name comes behind a sheet that was written. -/
theorem writeSheets_untouched_iff_sample :
    (Failure.sheetName ":/?*").IsCoded ∧
    ∃ d', Fails (writeSheets {} [("orders", 0), ("refunds", 1)] false) refusedDesk
        (.sheetName ":/?*") d' ∧
      ¬ ∀ written m, StoppedAtName {} [("orders", 0), ("refunds", 1)] false refusedDesk d'
        (.sheetName ":/?*") written m → written = [] := by
  have coded : (Failure.sheetName ":/?*").IsCoded := rfl
  obtain ⟨d', fails, worksheets, _⟩ := exists_fails_writeSheets_sample
  refine ⟨coded, d', fails, fun first => ?_⟩
  have untouched := (writeSheets_untouched_iff coded fails).mpr first
  rw [untouched] at worksheets
  exact Nat.zero_ne_one worksheets

/-- A refused name may come when a worksheet has been added and reported. -/
theorem writeSheets_touched :
    ∃ failure d', Fails (writeSheets {} [("orders", 0), ("refunds", 1)] false) refusedDesk
        failure d' ∧ failure.IsCoded ∧
      d'.workbook.worksheets.size ≠ refusedDesk.workbook.worksheets.size ∧
      d'.workbook.reports ≠ refusedDesk.workbook.reports := by
  have coded : (Failure.sheetName ":/?*").IsCoded := rfl
  obtain ⟨d', fails, worksheets, reports⟩ := exists_fails_writeSheets_sample
  refine ⟨_, d', fails, coded, ?_, fun same => ?_⟩
  · rw [worksheets]
    exact Nat.one_ne_zero
  · rw [same] at reports
    exact Nat.zero_ne_one reports

end Desk

end SheetExport
