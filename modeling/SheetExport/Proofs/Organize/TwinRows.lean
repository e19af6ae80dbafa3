/-
**Two sheets that differ in the order of their entries.**

* `MergedSheet.Twin m m'` — the same columns, each read off the same entry, the entries in any order;
* `Workspace.SameView reading w w'` — what the rows of a reading depend on: whether it has ended and,
  unless it has, all streams;
* `pullsAlike_nextRow`: one pull from two twins gives the same row, or none in both, or fails in both,
  and they are seen alike behind it. Which failure it is may differ where several streams are broken;
* `sameTake_takeRows`, `sameTake_takeAllRows`: so are any number of rows, and all rows;
* `MergedSheet.SameRows m m' w` — rows that are taken in parts, or all at once, are the same.
-/

import Mathlib.Data.List.Perm.Basic
import SheetExport.Proofs.Organize.Passing

namespace SheetExport

namespace MergedSheet

/-- The same columns, each read off the same entry. -/
structure Twin (m m' : MergedSheet) : Prop where
  columns : m'.sheet.columns = m.sheet.columns
  layout : m'.layout.map (m'.entries[·]?) = m.layout.map (m.entries[·]?)
  entries : m.entries.Perm m'.entries
  reading : m'.reading = m.reading

variable {m m' : MergedSheet}

theorem Twin.mem_streams (twin : Twin m m') (n : Nat) : n ∈ m'.streams ↔ n ∈ m.streams :=
  (twin.entries.map SheetEntry.stream).mem_iff.symm

theorem Twin.nodup_streams (twin : Twin m m') (own : m.streams.Nodup) : m'.streams.Nodup :=
  (twin.entries.map SheetEntry.stream).nodup_iff.mp own

end MergedSheet

namespace Workspace

open MergedSheet (Twin)

variable {m m' : MergedSheet} {w w' u u' : Workspace}

/-! ### Cells -/

/-- The cell of a column for the record of an entry, which is given by the entry. -/
def cellOf (record : SheetEntry → Option Record) (column : Column) (entry : Option SheetEntry) :
    Except Fault Cell :=
  match (entry.map record).join with
  | none => .ok column.emptyCell
  | some r => if r.isNull then .ok column.emptyCell else column.extract r

/-- The cells of a row depend on the entries that the columns are read off, not on their numbers. -/
theorem mapM_cellFor (m : MergedSheet) (record : SheetEntry → Option Record) :
    ((m.sheet.columns.zip m.layout).mapM fun (c, entry) =>
        cellFor (m.entries.map record) c entry) =
      (m.sheet.columns.zip (m.layout.map (m.entries[·]?))).mapM fun (c, entry) =>
        cellOf record c entry := by
  rw [List.zip_map_right, List.mapM_map]
  congr 1
  funext ⟨c, entry⟩
  show (match ((m.entries.map record)[entry]?).join with
    | none => _
    | some r => _) = _
  rw [List.getElem?_map]
  rfl

/-! ### One pull -/

/-- What the rows of a reading depend on. -/
structure SameView (reading : Nat) (w w' : Workspace) : Prop where
  ended : reading ∈ w'.ended ↔ reading ∈ w.ended
  streams : reading ∉ w.ended → ∀ n, w'.stream n = w.stream n

theorem SameView.refl (reading : Nat) (w : Workspace) : SameView reading w w :=
  ⟨Iff.rfl, fun _ _ => rfl⟩

/-- Both have ended the reading, so nothing else is seen. -/
theorem SameView.of_ended {reading : Nat} (ended : reading ∈ w.ended)
    (ended' : reading ∈ w'.ended) : SameView reading w w' :=
  ⟨iff_of_true ended' ended, fun going => absurd ended going⟩

/-- Streams that changed in the same way are seen alike. -/
theorem SameView.moves {reading : Nat} {numbers numbers' : List Nat}
    {change : Stream Record → Stream Record} (view : SameView reading w w')
    (going : reading ∉ w.ended) (same : ∀ n, n ∈ numbers' ↔ n ∈ numbers)
    (moves : Moves w u numbers change) (moves' : Moves w' u' numbers' change) :
    SameView reading u u' := by
  refine ⟨by rw [moves.ended, moves'.ended, view.ended], fun _ n => ?_⟩
  by_cases member : n ∈ numbers
  · rw [moves.changed n member, moves'.changed n ((same n).mpr member), view.streams going]
  · rw [moves.kept n member, moves'.kept n (mt (same n).mp member), view.streams going]

/-- One pull each: the same outcome but for which failure it is, and alike from there on. -/
inductive PullsAlike (m m' : MergedSheet) (w w' : Workspace) : Prop
  | gives (row : Option (List Cell)) {u u' : Workspace} (next : Yields (nextRow m) w row u)
    (next' : Yields (nextRow m') w' row u') (view : SameView m.reading u u')
  | fails (failure failure' : Failure) {u u' : Workspace} (stops : Fails (nextRow m) w failure u)
    (stops' : Fails (nextRow m') w' failure' u') (view : SameView m.reading u u')

/-- Records that are known decide the row. -/
theorem pullsAlike_of_records {record : SheetEntry → Option Record} (twin : Twin m m')
    (found : Yields (nextRecords m) w (some (m.entries.map record)) u)
    (found' : Yields (nextRecords m') w' (some (m'.entries.map record)) u')
    (view : SameView m.reading u u') : PullsAlike m m' w w' := by
  have cells := mapM_cellFor m record
  have cells' := mapM_cellFor m' record
  rw [twin.columns, twin.layout] at cells'
  cases outcome : (m.sheet.columns.zip (m.layout.map (m.entries[·]?))).mapM
      fun (c, entry) => cellOf record c entry with
  | ok row =>
    rw [outcome] at cells cells'
    refine .gives (some row) (found.bind ?_) (found'.bind ?_) view
    · simp only [cells]
      exact .pure _ _
    · simp only [twin.columns, cells']
      exact .pure _ _
  | error fault =>
    rw [outcome] at cells cells'
    refine .fails (.fault fault) (.fault fault)
      (fails_bind_iff.mpr (Or.inr ⟨_, _, found, ?_⟩))
      (fails_bind_iff.mpr (Or.inr ⟨_, _, found', ?_⟩)) view
    · simp only [cells]
      exact fails_throw_iff.mpr ⟨rfl, rfl⟩
    · simp only [twin.columns, cells']
      exact fails_throw_iff.mpr ⟨rfl, rfl⟩

/-- **One pull from twins** that read streams of their own is alike. -/
theorem pullsAlike_nextRow (twin : Twin m m') (own : m.streams.Nodup)
    (view : SameView m.reading w w') : PullsAlike m m' w w' := by
  have own' := twin.nodup_streams own
  by_cases ended : m.reading ∈ w.ended
  · have ended' : m'.reading ∈ w'.ended := twin.reading ▸ view.ended.mpr ended
    exact .gives none ((yields_nextRecords_ended ended).bind (.pure _ _))
      ((yields_nextRecords_ended ended').bind (.pure _ _)) view
  have going' : m'.reading ∉ w'.ended := twin.reading ▸ mt view.ended.mp ended
  have streams := view.streams ended
  let record := fun entry : SheetEntry => (w.stream entry.stream).upcoming
  have records' : upcomingOf m' w' = m'.entries.map record :=
    List.map_congr_left fun entry _ => congrArg Stream.upcoming (streams entry.stream)
  by_cases broken : ∃ entry ∈ m.entries, (w.stream entry.stream).Broken
  · -- Which of several broken streams is met first depends on the order.
    have broken' : ∃ entry ∈ m'.entries, (w'.stream entry.stream).Broken := by
      obtain ⟨entry, member, isBroken⟩ := broken
      exact ⟨entry, twin.entries.mem_iff.mp member, (streams entry.stream).symm ▸ isBroken⟩
    obtain ⟨failure, u, stops, atEnd, _⟩ := exists_fails_nextRecords own ended broken
    obtain ⟨failure', u', stops', atEnd', _⟩ := exists_fails_nextRecords own' going' broken'
    rw [twin.reading] at atEnd'
    exact .fails _ _ (fails_bind_iff.mpr (Or.inl stops)) (fails_bind_iff.mpr (Or.inl stops'))
      (.of_ended atEnd atEnd')
  have whole : ∀ entry ∈ m.entries, ¬ (w.stream entry.stream).Broken :=
    fun entry member isBroken => broken ⟨entry, member, isBroken⟩
  have whole' : ∀ entry ∈ m'.entries, ¬ (w'.stream entry.stream).Broken := by
    intro entry member
    rw [streams entry.stream]
    exact whole entry (twin.entries.mem_iff.mpr member)
  have coming : ((upcomingOf m' w').map Option.isSome).any id =
      ((upcomingOf m w).map Option.isSome).any id := by
    rw [records']
    exact ((twin.entries.symm.map record).map Option.isSome).any_eq
  by_cases some : ((upcomingOf m w).map Option.isSome).any id = true
  · obtain ⟨u, found, moves⟩ := exists_yields_nextRecords_upcoming own ended whole some
    obtain ⟨u', found', moves'⟩ :=
      exists_yields_nextRecords_upcoming own' going' whole' (coming.trans some)
    rw [records'] at found'
    exact pullsAlike_of_records twin found found' (view.moves ended twin.mem_streams moves moves')
  · obtain ⟨u, found, atEnd, _⟩ := exists_yields_nextRecords_none own ended whole some
    obtain ⟨u', found', atEnd', _⟩ :=
      exists_yields_nextRecords_none own' going' whole' (coming.symm ▸ some)
    rw [twin.reading] at atEnd'
    exact .gives none (found.bind (.pure _ _)) (found'.bind (.pure _ _))
      (.of_ended atEnd atEnd')

/-! ### Several rows -/

/-- The same rows, and both stopped by a failure or neither. -/
def SameTake (taken taken' : List (List Cell) × Option Failure) : Prop :=
  taken'.1 = taken.1 ∧ taken'.2.isSome = taken.2.isSome

/-- **Any number of rows** of twins are the same. -/
theorem sameTake_takeRows (twin : Twin m m') (own : m.streams.Nodup) (count : Nat)
    (view : SameView m.reading w w') :
    SameTake ((takeRows m count).run w).1 ((takeRows m' count).run w').1 ∧
      SameView m.reading ((takeRows m count).run w).2 ((takeRows m' count).run w').2 := by
  induction count generalizing w w' with
  | zero => exact ⟨⟨rfl, rfl⟩, view⟩
  | succ count ih =>
    rw [run_takeRows_succ, run_takeRows_succ]
    cases pullsAlike_nextRow twin own view with
    | gives row next next' view' =>
      rw [show (nextRow m).run.run w = _ from next, show (nextRow m').run.run w' = _ from next']
      cases row with
      | none => exact ⟨⟨rfl, rfl⟩, view'⟩
      | some row =>
        obtain ⟨⟨rows, stopped⟩, after⟩ := ih view'
        exact ⟨⟨congrArg (row :: ·) rows, stopped⟩, after⟩
    | fails _ _ stops stops' view' =>
      rw [show (nextRow m).run.run w = _ from stops, show (nextRow m').run.run w' = _ from stops']
      exact ⟨⟨rfl, rfl⟩, view'⟩

theorem rowBound_eq (twin : Twin m m') (streams : ∀ n, w'.stream n = w.stream n) :
    rowBound m' w' = rowBound m w := by
  unfold rowBound
  simp only [streams]
  refine twin.entries.symm.foldr_eq' (fun a _ b _ bound => ?_) 1
  omega

/-- There are no rows when the reading has ended. -/
theorem takeRows_of_ended (ended : m.reading ∈ w.ended) (count : Nat) :
    ((takeRows m count).run w).1 = ([], none) := by
  have atEnd : Yields (nextRow m) w none w := (yields_nextRecords_ended ended).bind (.pure _ _)
  cases count with
  | zero => rfl
  | succ count => rw [run_takeRows_succ, show (nextRow m).run.run w = _ from atEnd]

/-- **All rows** of twins are the same. -/
theorem sameTake_takeAllRows (twin : Twin m m') (own : m.streams.Nodup)
    (view : SameView m.reading w w') :
    SameTake ((takeAllRows m).run w).1 ((takeAllRows m').run w').1 := by
  show SameTake ((takeRows m (rowBound m w)).run w).1 ((takeRows m' (rowBound m' w')).run w').1
  by_cases ended : m.reading ∈ w.ended
  · have ended' : m'.reading ∈ w'.ended := twin.reading ▸ view.ended.mpr ended
    rw [takeRows_of_ended ended, takeRows_of_ended ended']
    exact ⟨rfl, rfl⟩
  · rw [rowBound_eq twin (view.streams ended)]
    exact (sameTake_takeRows twin own _ view).1

/-- **Rows that are taken in parts** are the same, part by part. -/
theorem sameTake_mapM_takeRows (twin : Twin m m') (own : m.streams.Nodup) (counts : List Nat)
    (view : SameView m.reading w w') :
    List.Forall₂ SameTake ((counts.mapM (takeRows m)).run w).1
      ((counts.mapM (takeRows m')).run w').1 := by
  induction counts generalizing w w' with
  | nil => exact .nil
  | cons count counts ih =>
    obtain ⟨first, view'⟩ := sameTake_takeRows twin own count view
    rw [List.mapM_cons, List.mapM_cons, StateT.run_bind, StateT.run_bind]
    exact .cons first (ih view')

end Workspace

/-- The rows of two sheets from a workspace: taken in parts, and taken all at once. -/
structure MergedSheet.SameRows (m m' : MergedSheet) (w : Workspace) : Prop where
  parts : ∀ counts : List Nat, List.Forall₂ Workspace.SameTake
    ((counts.mapM (Workspace.takeRows m)).run w).1 ((counts.mapM (Workspace.takeRows m')).run w).1
  all : Workspace.SameTake ((Workspace.takeAllRows m).run w).1
    ((Workspace.takeAllRows m').run w).1

theorem MergedSheet.Twin.sameRows {m m' : MergedSheet} (twin : m.Twin m') (own : m.streams.Nodup)
    (w : Workspace) : m.SameRows m' w :=
  ⟨fun counts => Workspace.sameTake_mapM_takeRows twin own counts (.refl _ w),
    Workspace.sameTake_takeAllRows twin own (.refl _ w)⟩

end SheetExport
