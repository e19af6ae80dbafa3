/-
**Sheets with one entry: styles, values and rows.**

The style of a cell is chosen on the value before it is masked, so it does not depend on the
masking, and the value does not depend on the rules and styles. A sheet that is merged from one
entry shows the rows of that entry's records:

* `style_extract_congr`, `value_extract_congr` — **two columns and one record**: what the style of
  the cell depends on, and what its value depends on;
* `Sheet.rowOfRecord` — the cells of a record on such a sheet; an absent record has empty cells;
* `Workspace.toCome m only w` — what pulls of the sheet still come to: a row or a failure for each
  record of the entry's stream, and the failure of the stream;
* `run_nextRow` — **one row**: it is the first of these, and the others are left;
* `readSteps_dealt` — **any steps of reading** deal them out in turn, whichever iterator is pulled;
* `showsRecords_of_single` — so iterators of values show what the sheet extracts of the records;
* `row_of_absent_record` — except for an absent record, whose row is empty.
-/

import SheetExport.Proofs.Organize.InTurn

namespace SheetExport

/-! ### Cells of two columns -/

/-- What is made alike of each value is alike in the cells of every record. -/
theorem map_extract_congr {α : Type} {c c' : Column} {part : Cell → α}
    (accessor : c.accessor = c'.accessor)
    (same : ∀ value, part (c.cellOf value) = part (c'.cellOf value)) (r : Record) :
    (c.extract r).map part = (c'.extract r).map part := by
  unfold Column.extract
  rw [← accessor]
  cases c.accessor.read r with
  | error fault => rfl
  | ok v =>
    show (v.toCell.map c.cellOf).map part = (v.toCell.map c'.cellOf).map part
    cases v.toCell with
    | error fault => rfl
    | ok value => exact congrArg Except.ok (same value)

/-- The style of a cell depends on how its value is read, and on the rules and the base style. -/
theorem style_extract_congr {c c' : Column} (accessor : c.accessor = c'.accessor)
    (columnStyle : c.columnStyle = c'.columnStyle) (rules : c.rules = c'.rules) (r : Record) :
    (c.extract r).map Cell.style = (c'.extract r).map Cell.style := by
  refine map_extract_congr accessor (fun value => ?_) r
  show c.styleOf value.toValue = c'.styleOf value.toValue
  rw [Column.styleOf, Column.styleOf, columnStyle, rules]

/-- The value of a cell depends on how it is read, and on the masking. -/
theorem value_extract_congr {c c' : Column} (accessor : c.accessor = c'.accessor)
    (masking : c.masking = c'.masking) (r : Record) :
    (c.extract r).map Cell.value = (c'.extract r).map Cell.value := by
  refine map_extract_congr accessor (fun value => ?_) r
  show c.masked value = c'.masked value
  rw [Column.masked, Column.masked, masking]

/-! ### The row of a record -/

namespace Sheet

/-- The cells of a record where the sheet has no other entry. -/
def rowOfRecord (s : Sheet) (r : Record) : Except Fault (List Cell) :=
  s.columns.mapM fun c => if r.isNull then .ok c.emptyCell else c.extract r

/-- The values of a record are those of its cells. -/
theorem map_value_rowOfRecord (s : Sheet) {r : Record} (present : r.isNull = false) :
    (s.rowOfRecord r).map (List.map Cell.value) = s.extractRow r := by
  rw [rowOfRecord, ← mapM_map_outcome, present]
  rfl

/-- An absent record has empty cells. -/
theorem rowOfRecord_of_isNull (s : Sheet) {r : Record} (absent : r.isNull = true) :
    s.rowOfRecord r = .ok (s.columns.map Column.emptyCell) := by
  rw [rowOfRecord, absent]
  show (s.columns.mapM fun c => Except.ok c.emptyCell) = _
  induction s.columns with
  | nil => rfl
  | cons c columns ih =>
    rw [List.mapM_cons, ih]
    rfl

end Sheet

/-! ### Dealing rows out -/

/-- What an iterator gives of a row, or of a failure. -/
def RowView.give (view : RowView) : Except Failure (List Cell) → RowPull
  | .ok row => .row (view.shown row)
  | .error failure => .raised failure

/-- What an iterator gives of all that is still to come, and the iterator behind it. -/
def dealtBy (view : RowView) : List (Except Failure (List Cell)) → RowPull × RowIterator
  | [] => (.ended, ⟨view, true⟩)
  | .ok row :: _ => (.row (view.shown row), ⟨view, false⟩)
  | .error failure :: _ => (.raised failure, ⟨view, true⟩)

/-- The pulls give the first of these in turn, each of them once, or that there is nothing. -/
inductive Dealt : List (Except Failure (List Cell)) → List (RowView × RowPull) →
    List (Except Failure (List Cell)) → Prop
  | nil (coming : List (Except Failure (List Cell))) : Dealt coming [] coming
  | given {outcome : Except Failure (List Cell)} {view : RowView}
      {coming left : List (Except Failure (List Cell))} {pulls : List (RowView × RowPull)}
      (others : Dealt coming pulls left) :
      Dealt (outcome :: coming) ((view, view.give outcome) :: pulls) left
  | ended {view : RowView} {coming left : List (Except Failure (List Cell))}
      {pulls : List (RowView × RowPull)} (others : Dealt coming pulls left) :
      Dealt coming ((view, .ended) :: pulls) left

/-- The pulls that were given something: those that did not find the end. -/
def delivered (pulls : List (RowView × RowPull)) : List (RowView × RowPull) :=
  pulls.filter fun p => match p.2 with
    | .ended => false
    | _ => true

/-- A pull that was given something was given what has its number. -/
theorem Dealt.getElem?_delivered {coming left : List (Except Failure (List Cell))}
    {pulls : List (RowView × RowPull)} (dealt : Dealt coming pulls left) {i : Nat} {view : RowView}
    {given : RowPull} (isGiven : (delivered pulls)[i]? = some (view, given)) :
    ∃ outcome, coming[i]? = some outcome ∧ given = view.give outcome := by
  induction dealt generalizing i with
  | nil => cases isGiven
  | ended _ ih => exact ih isGiven
  | @given outcome shown coming left pulls _ ih =>
    have first : delivered ((shown, shown.give outcome) :: pulls) =
        (shown, shown.give outcome) :: delivered pulls := by
      cases outcome <;> rfl
    rw [first] at isGiven
    cases i with
    | zero =>
      cases isGiven
      exact ⟨outcome, rfl, rfl⟩
    | succ i => exact ih isGiven

/-- The entry is the only one of the sheet, which has all columns of the entry's own sheet. -/
structure MergedSheet.Single (m : MergedSheet) (only : SheetEntry) : Prop where
  sheet : m.sheet = only.sheet
  entries : m.entries = [only]
  layout : m.layout = List.replicate only.sheet.columns.length 0

namespace Workspace

variable {m : MergedSheet} {only : SheetEntry} {w w' : Workspace}

/-- A sheet that is merged from one entry is that of the entry. -/
theorem single_of_merge {name : String} {order : Option Int} {strict : Bool}
    (merged : Yields (merge name order [only] strict) w m w') : m.Single only := by
  obtain ⟨reading, w₁, _, same⟩ := yields_bind_iff.mp merged
  obtain ⟨rfl, rfl⟩ := yields_pure_iff.mp same
  exact ⟨rfl, rfl, rfl⟩

/-- The cells of the row are those of the one record. -/
theorem mapM_cellFor_single (single : m.Single only) (r : Record) :
    ((m.sheet.columns.zip m.layout).mapM fun (c, entry) => cellFor [some r] c entry) =
      only.sheet.rowOfRecord r := by
  rw [single.sheet, single.layout, Sheet.rowOfRecord]
  induction only.sheet.columns with
  | nil => rfl
  | cons c columns ih =>
    rw [List.length_cons, List.replicate_succ, List.zip_cons_cons, List.mapM_cons, List.mapM_cons,
      ih]
    rfl

/-! ### What is still to come -/

/-- What the next pulls of the sheet come to: a row or a failure for each record of its stream, and
the failure of the stream. -/
def toCome (m : MergedSheet) (only : SheetEntry) (w : Workspace) :
    List (Except Failure (List Cell)) :=
  if m.reading ∈ w.ended then []
  else (w.held only.stream).map (fun r => (only.sheet.rowOfRecord r).mapError .fault) ++
    (w.stream only.stream).failure?.toList.map fun fault => .error (.fault fault)

theorem toCome_of_ended (ended : m.reading ∈ w.ended) : toCome m only w = [] := if_pos ended

theorem toCome_of_going (going : m.reading ∉ w.ended) : toCome m only w =
    (w.held only.stream).map (fun r => (only.sheet.rowOfRecord r).mapError .fault) ++
      (w.stream only.stream).failure?.toList.map fun fault => .error (.fault fault) :=
  if_neg going

section Single

variable (single : m.Single only)

include single

theorem nodup_streams_single : m.streams.Nodup := by
  rw [MergedSheet.streams, single.entries]
  exact List.nodup_singleton _

/-- A stream that fails next ends the reading. -/
theorem exists_fails_nextRow {fault : Fault} (going : m.reading ∉ w.ended)
    (fails : (w.stream only.stream).hasNext.1 = .error fault) :
    ∃ w', Fails (nextRow m) w (.fault fault) w' ∧ m.reading ∈ w'.ended := by
  obtain ⟨w', failed, ended⟩ := exists_fails_hasNext m.reading fails
  refine ⟨w', fails_bind_iff.mpr (Or.inl ?_), ended⟩
  refine fails_bind_iff.mpr (Or.inr ⟨w, w, .get w, ?_⟩)
  rw [if_neg (mt List.contains_iff_mem.mp going), single.entries, List.mapM_cons]
  exact fails_bind_iff.mpr (Or.inl (fails_bind_iff.mpr (Or.inl failed)))

/-- The next record of the stream makes the row, or does not, and is gone. -/
theorem exists_nextRow_record {r : Record} {rest : List Record} (going : m.reading ∉ w.ended)
    (next : w.held only.stream = r :: rest) :
    ∃ w', (nextRow m).run.run w =
        (((only.sheet.rowOfRecord r).mapError .fault).map some, w') ∧
      m.reading ∉ w'.ended ∧ w'.stream only.stream = (w.stream only.stream).passed := by
  have whole : ∀ entry ∈ m.entries, ¬ (w.stream entry.stream).Broken := by
    intro entry member broken
    rw [single.entries, List.mem_singleton] at member
    rw [Stream.broken_iff, member] at broken
    exact List.cons_ne_nil r rest (next.symm.trans broken.1)
  have upcoming : upcomingOf m w = [some r] := by
    rw [upcomingOf, single.entries, List.map_singleton, Stream.upcoming_eq_head?]
    exact congrArg (fun held => [held.head?]) next
  obtain ⟨w', found, moves⟩ := exists_yields_nextRecords_upcoming (nodup_streams_single single)
    going whole (by rw [upcoming]; rfl)
  have member : only.stream ∈ m.streams := by
    rw [MergedSheet.streams, single.entries]
    exact List.mem_singleton_self _
  refine ⟨w', ?_, moves.ended ▸ going, moves.changed _ member⟩
  have made := mapM_cellFor_single single r
  rw [upcoming] at found
  cases row : only.sheet.rowOfRecord r with
  | ok cells =>
    refine found.bind (f := fun found => _) (b := some cells) ?_
    simp only [made, row]
    exact .pure _ _
  | error fault =>
    refine fails_bind_iff.mpr (Or.inr ⟨_, w', found, ?_⟩)
    simp only [made, row]
    exact fails_throw_iff.mpr ⟨rfl, rfl⟩

/-- Behind the last record the reading ends. -/
theorem exists_nextRow_end (going : m.reading ∉ w.ended)
    (nothing : w.held only.stream = []) (whole : ¬ (w.stream only.stream).Broken) :
    ∃ w', Yields (nextRow m) w none w' ∧ m.reading ∈ w'.ended := by
  have upcoming : upcomingOf m w = [none] := by
    rw [upcomingOf, single.entries, List.map_singleton, Stream.upcoming_eq_head?]
    exact congrArg (fun held => [held.head?]) nothing
  obtain ⟨w', found, ended, _⟩ := exists_yields_nextRecords_none (nodup_streams_single single)
    going (by rw [single.entries]; simpa using whole) (by rw [upcoming]; simp)
  exact ⟨w', found.bind (.pure _ _), ended⟩

/-- **One row** is the first that was to come, and the others are left. -/
theorem run_nextRow (w : Workspace) :
    ∃ w', (nextRow m).run.run w =
        ((match toCome m only w with
          | [] => .ok none
          | outcome :: _ => outcome.map some), w') ∧
      toCome m only w' = (toCome m only w).tail := by
  by_cases ended : m.reading ∈ w.ended
  · rw [toCome_of_ended ended]
    exact ⟨w, (yields_nextRecords_ended ended).bind (.pure _ _), toCome_of_ended ended⟩
  rw [toCome_of_going ended]
  cases records : w.held only.stream with
  | cons r rest =>
    have whole : ¬ (w.stream only.stream).Broken := fun broken =>
      List.cons_ne_nil r rest (records.symm.trans (Stream.broken_iff.mp broken).1)
    obtain ⟨w', found, going, passed⟩ := exists_nextRow_record single ended records
    refine ⟨w', found, ?_⟩
    rw [toCome_of_going going, held, passed, Stream.held_passed, Stream.failure?_passed whole]
    rw [show (w.stream only.stream).held = r :: rest from records]
    rfl
  | nil =>
    cases failure : (w.stream only.stream).failure? with
    | none =>
      have whole : ¬ (w.stream only.stream).Broken := fun broken =>
        (Stream.broken_iff.mp broken).2 failure
      obtain ⟨w', found, atEnd⟩ := exists_nextRow_end single ended records whole
      exact ⟨w', found, toCome_of_ended atEnd⟩
    | some fault =>
      have fails : (w.stream only.stream).hasNext.1 = .error fault :=
        Stream.hasNext_of_failure? records failure
      obtain ⟨w', failed, atEnd⟩ := exists_fails_nextRow single ended fails
      exact ⟨w', failed, toCome_of_ended atEnd⟩

/-! ### Pulls -/

/-- **One pull** of an iterator that goes on gives what was to come, as the iterator shows it. -/
theorem exists_pullRow (view : RowView) (w : Workspace) :
    ∃ w', (pullRow m ⟨view, false⟩).run w = (dealtBy view (toCome m only w), w') ∧
      toCome m only w' = (toCome m only w).tail := by
  obtain ⟨w', next, left⟩ := run_nextRow single w
  refine ⟨w', ?_, left⟩
  rw [run_pullRow, next]
  rcases toCome m only w with _ | ⟨_ | row, rest⟩ <;> rfl

/-- **Rows are dealt out in turn**, whatever iterators there are and in which order they are pulled.
The induction is on the steps. -/
theorem readSteps_dealt (steps : List ReadStep) (iterators : List RowIterator) (w : Workspace) :
    Dealt (toCome m only w) ((readSteps m steps iterators).run w).1
      (toCome m only ((readSteps m steps iterators).run w).2) := by
  induction steps generalizing iterators w with
  | nil => exact .nil _
  | cons step steps ih =>
    cases step with
    | obtain view => exact ih _ w
    | pull i =>
      cases found : iterators[i]? with
      | none =>
        rw [readSteps, found]
        exact ih iterators w
      | some iterator =>
        obtain ⟨view, stale⟩ := iterator
        cases stale with
        | true =>
          have pulled : (pullRow m ⟨view, true⟩).run w = ((.ended, ⟨view, true⟩), w) := rfl
          rw [run_readSteps_pull steps found pulled]
          exact .ended (ih _ w)
        | false =>
          obtain ⟨w₁, pulled, left⟩ := exists_pullRow single view w
          have others := fun behind => ih (iterators.set i behind) w₁
          rcases coming : toCome m only w with _ | ⟨outcome, rest⟩
          · rw [coming] at pulled left
            rw [run_readSteps_pull steps found pulled]
            rw [left] at others
            exact .ended (others _)
          · rw [coming] at pulled left
            rw [run_readSteps_pull steps found pulled]
            rw [left] at others
            cases outcome with
            | error failure => exact .given (others _)
            | ok row => exact .given (others _)

/-- The first rows that are to come are given to an iterator that is pulled as often. -/
theorem rowsIn_readSteps_replicate (view : RowView) (rows : List (List Cell)) :
    ∀ (w : Workspace) (later : List (Except Failure (List Cell))),
      toCome m only w = rows.map .ok ++ later →
      rowsIn ((readSteps m (List.replicate rows.length (.pull 0)) [⟨view, false⟩]).run w).1 =
        rows.map fun row => (view, view.shown row) := by
  induction rows with
  | nil => exact fun _ _ _ => rfl
  | cons row rows ih =>
    intro w later coming
    obtain ⟨w₁, pulled, left⟩ := exists_pullRow single view w
    rw [coming] at pulled left
    rw [List.length_cons, List.replicate_succ, run_readSteps_pull _ rfl pulled]
    exact congrArg ((view, view.shown row) :: ·) (ih w₁ later left)

end Single

end Workspace

/-! ### Rows and records -/

/-- What a pull gives of a record whose values are shown. -/
def Sheet.valuesPull (s : Sheet) (r : Record) : RowPull :=
  match s.extractRow r with
  | .ok values => .row (.values values)
  | .error fault => .raised (.fault fault)

/-- An iterator of values gives what the sheet extracts of the record. -/
theorem Sheet.give_rowOfRecord (s : Sheet) {r : Record} (present : r.isNull = false) :
    RowView.values.give ((s.rowOfRecord r).mapError .fault) = s.valuesPull r := by
  rw [valuesPull, ← map_value_rowOfRecord s present]
  cases s.rowOfRecord r <;> rfl

/-- Records whose values are extracted have the rows of these values. -/
theorem Sheet.exists_rows_of_extractRow (s : Sheet) {records : List Record}
    {values : List (List CellValue)} (present : ∀ r ∈ records, r.isNull = false)
    (extracted : List.Forall₂ (fun r v => s.extractRow r = .ok v) records values) :
    ∃ rows : List (List Cell), rows.map (List.map Cell.value) = values ∧
      records.map (fun r => (s.rowOfRecord r).mapError Failure.fault) = rows.map .ok := by
  induction extracted with
  | nil => exact ⟨[], rfl, rfl⟩
  | @cons r v records values first _ ih =>
    rw [List.forall_mem_cons] at present
    obtain ⟨rows, shown, made⟩ := ih present.2
    rw [← map_value_rowOfRecord s present.1] at first
    obtain ⟨row, isRow, rfl⟩ := map_eq_ok_iff.mp first
    refine ⟨row :: rows, congrArg _ shown, ?_⟩
    rw [List.map_cons, made, isRow]
    rfl

namespace Workspace

/-- The iterators over a sheet show the values that its one entry's sheet extracts of the records,
which are those that are left in the stream now. -/
structure ShowsRecords (m : MergedSheet) (only : SheetEntry) (w : Workspace) : Prop where
  /-- Of all pulls that are given something, whichever iterator they are of, the one of a number is
  about the record of this number. -/
  inTurn : ∀ (steps : List ReadStep) (i : Nat) (given : RowPull),
    (delivered ((readSteps m steps []).run w).1)[i]? = some (RowView.values, given) →
      (∀ r, (w.held only.stream)[i]? = some r → r.isNull = false →
        given = only.sheet.valuesPull r) ∧
      ((w.held only.stream)[i]? = none → given.row? = none)
  /-- Records that can be extracted are all shown by an iterator that is pulled alone. -/
  alone : ∀ (records later : List Record) (values : List (List CellValue)),
    w.held only.stream = records ++ later →
    (∀ r ∈ records, r.isNull = false) →
    List.Forall₂ (fun r v => only.sheet.extractRow r = .ok v) records values →
    rowsIn ((readSteps m (.obtain .values :: List.replicate records.length (.pull 0)) []).run w).1 =
      values.map fun v => (RowView.values, ShownRow.values v)

variable {m : MergedSheet} {only : SheetEntry} {w : Workspace}

theorem showsRecords_of_single (single : m.Single only) (going : m.reading ∉ w.ended) :
    ShowsRecords m only w where
  inTurn steps i given isGiven := by
    have dealt := readSteps_dealt single steps [] w
    rw [toCome_of_going going] at dealt
    obtain ⟨outcome, isOutcome, rfl⟩ := dealt.getElem?_delivered isGiven
    constructor
    · intro r isRecord present
      have first := List.getElem?_eq_some_iff.mp isRecord
      rw [List.getElem?_append_left (by rw [List.length_map]; exact first.1), List.getElem?_map,
        isRecord] at isOutcome
      cases isOutcome
      exact only.sheet.give_rowOfRecord present
    · intro beyond
      rw [List.getElem?_append_right
        (by rw [List.length_map]; exact List.getElem?_eq_none_iff.mp beyond)] at isOutcome
      obtain ⟨fault, _, rfl⟩ := List.mem_map.mp (List.mem_of_getElem? isOutcome)
      rfl
  alone records later values left present extracted := by
    obtain ⟨rows, shown, made⟩ := only.sheet.exists_rows_of_extractRow present extracted
    have coming : toCome m only w = _ := toCome_of_going going
    rw [left, List.map_append, made, List.append_assoc] at coming
    have lengths : records.length = rows.length := by simpa using congrArg List.length made
    rw [lengths, ← shown, List.map_map]
    exact rowsIn_readSteps_replicate single .values rows w _ coming

/-- A style, told by its number. -/
def numberedStyle (stamp : Nat) : Style := ⟨stamp, "Plain", ⟨.empty, 12, false⟩⟩

/-- Telephone numbers are covered; those with some digits, which are covered as well, are marked. -/
def contactColumn : Column :=
  { Column.plain (numberedStyle 0) "phone" 1 with
    accessor := .path ["phone"]
    masking := some .phone
    rules := [⟨⟨"contains '1234'", .test (.matchText .contains (some "1234"))⟩,
      numberedStyle 1, 0⟩] }

def contactEntry : SheetEntry := ⟨0, .ofName "Contact", ⟨"contacts", [contactColumn], true, none⟩⟩

def contact : Record := .object (.ofName "Contact") [("phone", .text "13812345678")]

/-- A source of one contact. -/
def contactWorkspace : Workspace :=
  { Workspace.empty with supplies := [⟨.ofList [contact], none⟩] }

def contactMerged : MergedSheet := ⟨contactEntry.sheet, [contactEntry], [0], 0⟩

theorem extract_contact :
    contactColumn.extract contact = .ok ⟨.text "138-****-5678", numberedStyle 1⟩ := rfl

/-- A column that shows the same number for everything, the absent value included. -/
def constantColumn : Column :=
  { Column.plain (numberedStyle 0) "n" 1 with accessor := .function (.constant (.int 5)) }

def constantEntry : SheetEntry := ⟨0, .ofName "Contact", ⟨"n", [constantColumn], true, none⟩⟩

def constantMerged : MergedSheet := ⟨constantEntry.sheet, [constantEntry], [0], 0⟩

/-- A source with an absent record behind another one. -/
def absentWorkspace : Workspace :=
  { Workspace.empty with supplies := [⟨.ofList [contact, .bare .null], none⟩] }

end Workspace

end SheetExport
