/-
**The rows of merged sheets, pulled in any order.**

`held` gives the records that each stream had when reading began.

* `MergedSheet.IsRow m held i row` — `row` is the row of number `i`: each cell is made by its column
  from the record of that number in the stream of its entry, or is empty where there is none;
* `MergedSheet.Pulled m held i row?` — what the pull of number `i` must give: that row up to the
  last one, and nothing from then on;
* `Workspace.exists_yields_nextRow`: one pull gives what it must give and moves the streams of its
  own sheet on by one record;
* `Workspace.exists_yields_schedule`: so do any number of pulls of several sheets in any order.
-/

import Mathlib.Data.List.Nodup
import Mathlib.Logic.Function.Basic
import Mathlib.Order.MinMax
import SheetExport.Proofs.Organize.Layout

namespace SheetExport

/-! ### What rows are -/

/-- The cell of a column for the record that its entry has, if it has one. -/
def Column.Shows (column : Column) (record : Option Record) (cell : Cell) : Prop :=
  match record with
  | some r => column.extract r = .ok cell
  | none => cell = column.emptyCell

namespace MergedSheet

variable (m : MergedSheet) (held : Nat → List Record)

/-- The cells of the row of a number. -/
def IsRow (i : Nat) (row : List Cell) : Prop :=
  List.Forall₂ (fun (place : Column × Nat) cell => ∃ entry, m.entries[place.2]? = some entry ∧
    place.1.Shows (held entry.stream)[i]? cell) (m.sheet.columns.zip m.layout) row

/-- The streams of the entries. -/
def streams : List Nat := m.entries.map SheetEntry.stream

/-- The number of rows: that of the records of the longest entry. -/
def height : Nat := (m.entries.map fun entry => (held entry.stream).length).foldr max 0

/-- What a pull gives when so many were made before: a row while there is one. -/
def Pulled (i : Nat) : Option (List Cell) → Prop
  | some row => i < m.height held ∧ m.IsRow held i row
  | none => m.height held ≤ i

/-- Every column can be read off every record of its entry, and no record is the absent one. -/
structure Readable : Prop where
  extracts : ∀ entry ∈ m.entries, ∀ column ∈ entry.sheet.columns, ∀ r ∈ held entry.stream,
    ∃ cell, column.extract r = .ok cell
  present : ∀ entry ∈ m.entries, ∀ r ∈ held entry.stream, r.isNull = false

theorem lt_height_iff (i : Nat) :
    i < m.height held ↔ ∃ entry ∈ m.entries, i < (held entry.stream).length := by
  rw [height]
  induction m.entries with
  | nil => simp
  | cons entry entries ih =>
    rw [List.map_cons, List.foldr_cons, lt_max_iff, ih]
    simp

end MergedSheet

namespace Workspace

variable {w w' : Workspace} {m : MergedSheet}

/-! ### One step of each entry -/

section Steps

variable {entry : SheetEntry} {records : List Record} {r : Record}

theorem exists_yields_hasNext (reading : Nat) (holds : w.Holds entry.stream records) :
    ∃ w', Yields (hasNext reading entry) w (!records.isEmpty) w' ∧ Keeps w w' [entry.stream] ∧
      w'.Holds entry.stream records := by
  obtain ⟨w', asked, keeps, holds'⟩ := holds.exists_yields Stream.hasNext
    fun s held => held.hasNext
  exact ⟨w', asked.bind (.pure _ _), keeps, holds'⟩

theorem exists_yields_nextRecord (reading : Nat) (holds : w.Holds entry.stream (r :: records)) :
    ∃ w', Yields (nextRecord reading entry) w r w' ∧ Keeps w w' [entry.stream] ∧
      w'.Holds entry.stream records := by
  obtain ⟨w', took, keeps, holds'⟩ := holds.exists_yields Stream.next
    fun s held => held.next
  exact ⟨w', took.bind (.pure _ _), keeps, holds'⟩

end Steps

/-- Operations on different streams, one after the other. The induction is on the items; what an
operation left in its stream stays there while the others go on. -/
theorem exists_yields_mapM {γ β : Type} (items : List γ) (number : γ → Nat)
    (operation : γ → WorkspaceM β) (result : γ → β) (before after : γ → List Record)
    (apart : (items.map number).Nodup) (holds : ∀ a ∈ items, w.Holds (number a) (before a))
    (operates : ∀ a ∈ items, ∀ w, w.Holds (number a) (before a) →
      ∃ w', Yields (operation a) w (result a) w' ∧ Keeps w w' [number a] ∧
        w'.Holds (number a) (after a)) :
    ∃ w', Yields (items.mapM operation) w (items.map result) w' ∧ Keeps w w' (items.map number) ∧
      ∀ a ∈ items, w'.Holds (number a) (after a) := by
  induction items generalizing w with
  | nil => exact ⟨w, yields_mapM_nil_iff.mpr ⟨rfl, rfl⟩, .refl _ _, by simp⟩
  | cons a items ih =>
    rw [List.map_cons, List.nodup_cons] at apart
    obtain ⟨w₁, first, keeps₁, left⟩ := operates a List.mem_cons_self w (holds a List.mem_cons_self)
    have others : ∀ b ∈ items, w₁.Holds (number b) (before b) := by
      intro b member
      refine (holds b (List.mem_cons_of_mem _ member)).keeps keeps₁ fun same => ?_
      exact apart.1 (List.mem_map.mpr ⟨b, member, List.mem_singleton.mp same⟩)
    obtain ⟨w', rest, keeps', holds'⟩ :=
      ih apart.2 others fun b member => operates b (List.mem_cons_of_mem _ member)
    refine ⟨w', yields_mapM_cons_iff.mpr ⟨_, w₁, _, rfl, first, rest⟩,
      (keeps₁.mono (by simp)).trans (keeps'.mono (by simp)), ?_⟩
    intro b member
    rcases List.mem_cons.mp member with rfl | later
    · exact left.keeps keeps' apart.1
    · exact holds' b later

/-! ### One row -/

/-- The record that each entry has in the row of a number. -/
def rowRecords (m : MergedSheet) (held : Nat → List Record) (i : Nat) : List (Option Record) :=
  m.entries.map fun entry => (held entry.stream)[i]?

/-- Every entry's stream is at the row of the number, and the reading has ended if it is beyond the
row after the last. -/
structure ReadUpTo (w : Workspace) (m : MergedSheet) (held : Nat → List Record) (i : Nat) :
    Prop where
  holds : ∀ entry ∈ m.entries, w.Holds entry.stream ((held entry.stream).drop i)
  ended : m.reading ∈ w.ended ↔ m.height held < i

/-- Nothing changed but the streams of the given numbers and whether one reading has ended. -/
structure Advances (w w' : Workspace) (numbers : List Nat) (reading : Nat) : Prop where
  streams : ∀ n ∉ numbers, n < w.supplies.length → w'.stream n = w.stream n
  count : w.supplies.length ≤ w'.supplies.length
  ended : ∀ other ≠ reading, other ∈ w'.ended ↔ other ∈ w.ended

theorem Keeps.advances {numbers : List Nat} (keeps : Keeps w w' numbers) (reading : Nat) :
    Advances w w' numbers reading :=
  ⟨keeps.streams, keeps.count, fun _ _ => by rw [keeps.ended]⟩

theorem ReadUpTo.advances {held : Nat → List Record} {i : Nat} {numbers : List Nat} {reading : Nat}
    (read : ReadUpTo w m held i) (advances : Advances w w' numbers reading)
    (apart : ∀ entry ∈ m.entries, entry.stream ∉ numbers) (other : m.reading ≠ reading) :
    ReadUpTo w' m held i := by
  refine ⟨fun entry member => ?_, (advances.ended _ other).trans read.ended⟩
  obtain ⟨below, holds⟩ := read.holds entry member
  refine ⟨Nat.lt_of_lt_of_le below advances.count, ?_⟩
  rw [advances.streams _ (apart entry member) below]
  exact holds

theorem yields_endReading (w : Workspace) (reading : Nat) :
    Yields (endReading reading) w () { w with ended := reading :: w.ended } := rfl

variable {held : Nat → List Record} {i : Nat}

theorem isEmpty_drop (records : List Record) (i : Nat) :
    (!(records.drop i).isEmpty) = true ↔ i < records.length := by
  simp

/-- Some entry has a next record just when there is a row left. -/
theorem any_available_iff : (m.entries.map fun entry =>
    !((held entry.stream).drop i).isEmpty).any id = true ↔ i < m.height held := by
  rw [MergedSheet.lt_height_iff, List.any_map, List.any_eq_true]
  simp only [Function.comp_apply, id, isEmpty_drop]

/-- The next record of an entry that was asked before whether it has one. -/
theorem exists_yields_taken {entry : SheetEntry} {records : List Record} (reading : Nat)
    (holds : w.Holds entry.stream records) :
    ∃ w', Yields (do
        if !records.isEmpty then return some (← nextRecord reading entry)
        else return none : WorkspaceM (Option Record)) w records.head? w' ∧
      Keeps w w' [entry.stream] ∧ w'.Holds entry.stream records.tail := by
  cases records with
  | nil => exact ⟨w, .pure _ _, .refl _ _, holds⟩
  | cons r records =>
    obtain ⟨w', took, keeps, holds'⟩ := exists_yields_nextRecord reading holds
    exact ⟨w', took.bind (.pure _ _), keeps, holds'⟩

/-- The records of a row are taken from the entries that were found to have one. -/
theorem exists_yields_rowRecords (apart : m.streams.Nodup)
    (holds : ∀ entry ∈ m.entries, w.Holds entry.stream ((held entry.stream).drop i)) :
    ∃ w', Yields ((m.entries.zip (m.entries.map fun entry =>
        !((held entry.stream).drop i).isEmpty)).mapM fun (entry, found) => do
          if found then return some (← nextRecord m.reading entry) else return none)
        w (rowRecords m held i) w' ∧
      Keeps w w' m.streams ∧
      ∀ entry ∈ m.entries, w'.Holds entry.stream ((held entry.stream).drop (i + 1)) := by
  have pairs : m.entries.zip (m.entries.map fun entry =>
      !((held entry.stream).drop i).isEmpty) =
      m.entries.map fun entry => (entry, !((held entry.stream).drop i).isEmpty) := by
    have zipped := List.zip_map' (f := id) (l := m.entries)
      (g := fun entry => !((held entry.stream).drop i).isEmpty)
    rwa [List.map_id] at zipped
  have numbers : (m.entries.map fun entry => (entry, !((held entry.stream).drop i).isEmpty)).map
      (fun p => p.1.stream) = m.streams := by
    rw [List.map_map]
    rfl
  obtain ⟨w', took, keeps, left⟩ := exists_yields_mapM
    (m.entries.map fun entry => (entry, !((held entry.stream).drop i).isEmpty))
    (fun p => p.1.stream)
    (fun (entry, found) => do
      if found then return some (← nextRecord m.reading entry) else return none)
    (fun p => (held p.1.stream)[i]?)
    (fun p => (held p.1.stream).drop i) (fun p => (held p.1.stream).drop (i + 1))
    (by rw [numbers]; exact apart)
    (by
      intro p member
      obtain ⟨entry, inEntries, rfl⟩ := List.mem_map.mp member
      exact holds entry inEntries)
    (by
      intro p member w holds
      obtain ⟨entry, inEntries, rfl⟩ := List.mem_map.mp member
      have taken := exists_yields_taken m.reading holds
      rw [List.head?_drop, List.tail_drop] at taken
      exact taken)
  rw [numbers] at keeps
  rw [List.map_map] at took
  refine ⟨w', by rw [pairs]; exact took, keeps, fun entry member => ?_⟩
  exact left _ (List.mem_map_of_mem member)

/-- The reading ends when no entry has a record left. -/
theorem exists_yields_atEnd (atEnd : i = m.height held)
    (keeps : Keeps w w' m.streams)
    (holds : ∀ entry ∈ m.entries, w'.Holds entry.stream ((held entry.stream).drop i)) :
    ∃ w'', Yields (do
        endReading m.reading
        return none : WorkspaceM (Option (List (Option Record)))) w' none w'' ∧
      ReadUpTo w'' m held (i + 1) ∧
      Advances w w'' m.streams m.reading := by
  refine ⟨_, (yields_endReading w' m.reading).bind (.pure _ _), ⟨?_, ?_⟩, ?_⟩
  · intro entry member
    have long : ¬ i < (held entry.stream).length := fun below =>
      absurd ((m.lt_height_iff held i).mpr ⟨entry, member, below⟩) (by omega)
    have nothing := holds entry member
    rw [List.drop_eq_nil_of_le (Nat.le_of_not_lt long)] at nothing
    rw [List.drop_eq_nil_of_le (by omega)]
    exact nothing
  · simp only [List.mem_cons, true_or, true_iff]
    omega
  · refine ⟨keeps.streams, keeps.count, fun other apart => ?_⟩
    rw [List.mem_cons, or_iff_right apart, keeps.ended]

/-- **The next records of a sheet**: those of the row, or none at all after the last row. -/
theorem exists_yields_nextRecords (apart : m.streams.Nodup)
    (read : ReadUpTo w m held i) :
    ∃ records w', Yields (nextRecords m) w records w' ∧ ReadUpTo w' m held (i + 1) ∧
      Advances w w' m.streams m.reading ∧
      records = if i < m.height held then some (rowRecords m held i) else none := by
  by_cases beyond : m.height held < i
  · -- The reading has ended before.
    have ended := read.ended.mpr beyond
    refine ⟨none, w, (Yields.get w).bind ?_, ⟨?_, ?_⟩, (Keeps.refl w _).advances _, ?_⟩
    · rw [if_pos (List.contains_iff_mem.mpr ended)]
      exact .pure _ _
    · intro entry member
      have long : ¬ i - 1 < (held entry.stream).length := fun below =>
        absurd ((m.lt_height_iff held (i - 1)).mpr ⟨entry, member, below⟩) (by omega)
      have nothing := read.holds entry member
      rw [List.drop_eq_nil_of_le (by omega)] at nothing ⊢
      exact nothing
    · exact iff_of_true ended (by omega)
    · rw [if_neg (by omega)]
  · have notEnded : ¬ w.ended.contains m.reading = true :=
      fun ended => beyond (read.ended.mp (List.contains_iff_mem.mp ended))
    obtain ⟨w₁, asked, keeps₁, holds₁⟩ := exists_yields_mapM m.entries SheetEntry.stream
      (hasNext m.reading) _ _ _ apart read.holds
      fun entry _ w holds => exists_yields_hasNext m.reading holds
    by_cases within : i < m.height held
    · obtain ⟨w₂, took, keeps₂, holds₂⟩ := exists_yields_rowRecords apart holds₁
      have keeps := keeps₁.trans keeps₂
      refine ⟨_, w₂, (Yields.get w).bind ?_, ⟨holds₂, ?_⟩, keeps.advances _, (if_pos within).symm⟩
      · rw [if_neg notEnded]
        refine asked.bind ?_
        rw [if_pos (any_available_iff.mpr within)]
        exact took.bind (.pure _ _)
      · rw [keeps.ended, read.ended]
        omega
    · obtain ⟨w₂, ends, read₂, advances⟩ := exists_yields_atEnd (by omega) keeps₁ holds₁
      refine ⟨_, w₂, (Yields.get w).bind ?_, read₂, advances, (if_neg within).symm⟩
      rw [if_neg notEnded]
      refine asked.bind ?_
      rw [if_neg fun available => within (any_available_iff.mp available)]
      exact ends

/-- The cells of a row are those of its records. -/
theorem exists_cells (i : Nat) (laidOut : m.LaidOut) (readable : m.Readable held) :
    ∃ row, ((m.sheet.columns.zip m.layout).mapM fun (column, entry) =>
        cellFor (rowRecords m held i) column entry) = .ok row ∧ m.IsRow held i row := by
  refine exists_mapM_eq_ok ?_
  rintro ⟨column, index⟩ member
  obtain ⟨entry, found, isColumn⟩ :=
    exists_entry_of_mem_entryColumns (laidOut.columns.mem_iff.mp member)
  have inEntries := List.mem_of_getElem? found
  have records : (rowRecords m held i)[index]?.join = (held entry.stream)[i]? := by
    rw [rowRecords, List.getElem?_map, found]
    rfl
  cases record : (held entry.stream)[i]? with
  | none =>
    refine ⟨column.emptyCell, ?_, entry, found, ?_⟩
    · simp only [cellFor, records, record]
    · rw [record]
      rfl
  | some r =>
    have isRecord := List.mem_of_getElem? record
    obtain ⟨cell, extracts⟩ := readable.extracts entry inEntries column isColumn r isRecord
    refine ⟨cell, ?_, entry, found, ?_⟩
    · simp only [cellFor, records, record, readable.present entry inEntries r isRecord, extracts]
      rfl
    · rw [record]
      exact extracts

/-- **One pull** gives the row that is due and moves on to the next. -/
theorem exists_yields_nextRow (apart : m.streams.Nodup)
    (laidOut : m.LaidOut) (readable : m.Readable held) (read : ReadUpTo w m held i) :
    ∃ row w', Yields (nextRow m) w row w' ∧ m.Pulled held i row ∧ ReadUpTo w' m held (i + 1) ∧
      Advances w w' m.streams m.reading := by
  obtain ⟨records, w', took, read', advances, same⟩ := exists_yields_nextRecords apart read
  by_cases within : i < m.height held
  · rw [if_pos within] at same
    subst same
    obtain ⟨row, cells, isRow⟩ := exists_cells i laidOut readable
    refine ⟨some row, w', took.bind ?_, ⟨within, isRow⟩, read', advances⟩
    simp only [cells]
    exact .pure _ _
  · rw [if_neg within] at same
    subst same
    exact ⟨none, w', took.bind (.pure _ _), Nat.le_of_not_lt within, read', advances⟩

/-! ### Any order of pulls -/

variable {sheets : List MergedSheet}

/-- Sheets at different places share no stream. -/
theorem streams_apart (apart : (sheets.flatMap MergedSheet.streams).Nodup)
    {k l : Fin sheets.length} (other : k ≠ l) :
    ∀ n ∈ (sheets.get k).streams, n ∉ (sheets.get l).streams := by
  have pairwise := (List.nodup_flatMap.mp apart).2
  rcases Nat.lt_or_gt_of_ne (Fin.val_ne_of_ne other) with before | after
  · intro n inK inL
    exact List.pairwise_iff_getElem.mp pairwise k l k.2 l.2 before inK inL
  · intro n inK inL
    exact List.pairwise_iff_getElem.mp pairwise l k l.2 k.2 after inL inK

/-- Sheets at different places have different readings. -/
theorem readings_apart (readings : (sheets.map MergedSheet.reading).Nodup)
    {k l : Fin sheets.length} (other : k ≠ l) :
    (sheets.get k).reading ≠ (sheets.get l).reading := by
  intro equal
  have injective := List.nodup_iff_injective_get.mp readings
  have same : (⟨k, by simp⟩ : Fin (sheets.map MergedSheet.reading).length) = ⟨l, by simp⟩ :=
    injective (by simpa using equal)
  exact other (Fin.ext (Fin.mk.inj_iff.mp same))

/-- **Pulls of several sheets in any order** give, for each sheet, its rows one after the other. The
induction is on the pulls that are left; `counts` says how many each sheet had before. -/
theorem exists_yields_schedule (apart : (sheets.flatMap MergedSheet.streams).Nodup)
    (readings : (sheets.map MergedSheet.reading).Nodup) (laidOut : ∀ m ∈ sheets, m.LaidOut)
    (readable : ∀ m ∈ sheets, m.Readable held) (schedule : List (Fin sheets.length))
    {counts : Fin sheets.length → Nat} (read : ∀ k, ReadUpTo w (sheets.get k) held (counts k)) :
    ∃ rows w', Yields (schedule.mapM fun k => nextRow (sheets.get k)) w rows w' ∧
      rows.length = schedule.length ∧
      ∀ (j : Nat) (k : Fin sheets.length) row, schedule[j]? = some k → rows[j]? = some row →
        (sheets.get k).Pulled held (counts k + (schedule.take j).count k) row := by
  induction schedule generalizing w counts with
  | nil => exact ⟨[], w, yields_mapM_nil_iff.mpr ⟨rfl, rfl⟩, rfl, by simp⟩
  | cons k schedule ih =>
    have inSheets : sheets.get k ∈ sheets := List.get_mem sheets k
    have ownApart : (sheets.get k).streams.Nodup := (List.nodup_flatMap.mp apart).1 _ inSheets
    obtain ⟨row, w₁, first, pulled, read₁, advances⟩ :=
      exists_yields_nextRow ownApart (laidOut _ inSheets) (readable _ inSheets) (read k)
    have readNext : ∀ l,
        ReadUpTo w₁ (sheets.get l) held (Function.update counts k (counts k + 1) l) := by
      intro l
      by_cases same : l = k
      · subst same
        rw [Function.update_self]
        exact read₁
      · rw [Function.update_of_ne same]
        refine (read l).advances advances (fun entry member => ?_) (readings_apart readings same)
        exact streams_apart apart same _ (List.mem_map_of_mem member)
    obtain ⟨rows, w', others, length, due⟩ := ih readNext
    refine ⟨row :: rows, w', yields_mapM_cons_iff.mpr ⟨row, w₁, rows, rfl, first, others⟩,
      by rw [List.length_cons, List.length_cons, length], ?_⟩
    intro j l next isPull isRow
    cases j with
    | zero =>
      cases isPull
      cases isRow
      rw [List.take_zero, List.count_nil, Nat.add_zero]
      exact pulled
    | succ j =>
      have later := due j l next isPull isRow
      rw [List.take_succ_cons]
      by_cases same : l = k
      · subst same
        rw [Function.update_self] at later
        rw [List.count_cons_self]
        have total : counts l + ((schedule.take j).count l + 1) =
            counts l + 1 + (schedule.take j).count l := by omega
        rw [total]
        exact later
      · rw [Function.update_of_ne same] at later
        rw [List.count_cons_of_ne (Ne.symm same)]
        exact later

end Workspace

end SheetExport
