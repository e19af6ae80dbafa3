/-
**The order of entries does not matter where the orders of their columns all differ.**

* `withEntries` — columns with the entries that they are read off, in place of the entries' numbers;
  `withEntries_interleave`: by ascending order they stand the same for every order of the entries;
* `run_merge_of_apart` — what merging several entries does if no order is shared;
* `SameSheet m m'` — the same name, order and columns, so the same header, each column read off the
  same entry, and the same rows if every entry reads a stream of its own;
* `merge_of_perm`: merging the entries in another order fails in the same way or gives the same sheet.
-/

import Mathlib
import SheetExport.Proofs.Organize.Gathering
import SheetExport.Proofs.Organize.Labels
import SheetExport.Proofs.Organize.Prepared
import SheetExport.Proofs.Organize.TwinRows

namespace SheetExport

variable {entries entries' : List SheetEntry}

/-! ### Columns and their entries -/

/-- Columns with their entries in place of the numbers of these. -/
def withEntries (entries : List SheetEntry) (columns : List (Column × Nat)) :
    List (Column × Option SheetEntry) :=
  columns.map fun (column, index) => (column, entries[index]?)

theorem map_fst_withEntries (entries : List SheetEntry) (columns : List (Column × Nat)) :
    (withEntries entries columns).map Prod.fst = columns.map Prod.fst := by
  rw [withEntries, List.map_map]
  rfl

theorem map_snd_withEntries (entries : List SheetEntry) (columns : List (Column × Nat)) :
    (withEntries entries columns).map Prod.snd = (columns.map Prod.snd).map (entries[·]?) := by
  rw [withEntries, List.map_map, List.map_map]
  rfl

/-- Every entry has its own columns. -/
theorem withEntries_entryColumns (entries : List SheetEntry) :
    withEntries entries (entryColumns entries) =
      entries.flatMap fun entry => entry.sheet.columns.map (·, some entry) := by
  have numbered : ((List.range entries.length).zip entries).map Prod.snd = entries :=
    List.map_snd_zip (by simp)
  rw [withEntries, entryColumns, List.map_flatMap]
  conv_rhs => rw [← numbered, List.flatMap_map]
  refine List.flatMap_congr fun (pair : Nat × SheetEntry) inZip => ?_
  obtain ⟨index, entry⟩ := pair
  obtain ⟨i, below, same⟩ := List.mem_iff_getElem.mp inZip
  simp only [List.getElem_zip, List.getElem_range, Prod.mk.injEq] at same
  obtain ⟨rfl, rfl⟩ := same
  rw [List.map_map]
  refine List.map_congr_left fun column _ => ?_
  show (column, entries[i]?) = _
  rw [List.getElem?_eq_getElem]

theorem orders_withEntries (entries : List SheetEntry) :
    (withEntries entries (entryColumns entries)).map (·.1.order) =
      (columnsOf entries).map Column.order := by
  rw [← orders_entryColumns, withEntries, List.map_map]
  rfl

theorem perm_interleave (entries : List SheetEntry) :
    (withEntries entries (interleave (entryColumns entries))).Perm
      (withEntries entries (entryColumns entries)) :=
  (List.mergeSort_perm _ _).map _

theorem pairwise_interleave (entries : List SheetEntry) :
    (withEntries entries (interleave (entryColumns entries))).Pairwise
      fun p q => p.1.order ≤ q.1.order :=
  List.pairwise_map.mpr (pairwise_mergeSort_by (·.1.order) (entryColumns entries))

/-- **Columns by ascending order stand the same** for every order of their entries: lists that are
ascending and have the same members are equal if no order is there twice. -/
theorem withEntries_interleave (apart : ((columnsOf entries).map Column.order).Nodup)
    (perm : entries.Perm entries') :
    withEntries entries (interleave (entryColumns entries)) =
      withEntries entries' (interleave (entryColumns entries')) := by
  have columns : (withEntries entries (entryColumns entries)).Perm
      (withEntries entries' (entryColumns entries')) := by
    rw [withEntries_entryColumns, withEntries_entryColumns]
    exact perm.flatMap_right _
  have same := (perm_interleave entries).trans (columns.trans (perm_interleave entries').symm)
  have distinct : ((withEntries entries (interleave (entryColumns entries))).map
      (·.1.order)).Nodup := by
    rw [((perm_interleave entries).map _).nodup_iff, orders_withEntries]
    exact apart
  refine same.eq_of_pairwise (fun p q inFirst inSecond less more => ?_) (pairwise_interleave entries)
    (pairwise_interleave entries')
  exact List.inj_on_of_nodup_map distinct inFirst (same.mem_iff.mpr inSecond)
    (Int.le_antisymm less more)

namespace Workspace

/-! ### Merging entries of different orders -/

/-- The sheet of entries whose columns stand by ascending order. -/
def interleaved (name : String) (order : Option Int) (entries : List SheetEntry) (reading : Nat) :
    MergedSheet :=
  ⟨⟨name, (interleave (entryColumns entries)).map Prod.fst,
    (entries.head?.map (·.sheet.hasHeader)).getD false, order⟩, entries,
    (interleave (entryColumns entries)).map Prod.snd, reading⟩

/-- **Merging several entries of different orders**: the labels are checked, and the columns stand
by ascending order. -/
theorem run_merge_of_apart (several : 2 ≤ entries.length)
    (apart : ((columnsOf entries).map Column.order).Nodup) (name : String) (order : Option Int)
    (strict : Bool) (w : Workspace) :
    (merge name order entries strict).run.run w =
      match checkMergeHeaders ((interleave (entryColumns entries)).map Prod.fst) with
      | .error gap => (.error (.mergeHeader ("sheet " ++ Text.quoted name) gap), w)
      | .ok () => (.ok (interleaved name order entries w.nextReading),
          { w with nextReading := w.nextReading + 1 }) := by
  have notShared : (sharedOrdersOf (entryColumns entries)).isEmpty = true := by
    rw [isEmpty_sharedOrdersOf_iff, orders_entryColumns]
    exact apart
  unfold merge
  split
  · cases several
  · exact absurd several (Nat.not_succ_le_self 1)
  · rename_i first rest _
    simp only [notShared, if_true]
    cases checkMergeHeaders ((interleave (entryColumns (first :: rest))).map Prod.fst) with
    | error gap => rfl
    | ok done => rfl

/-- The same sheet but for whether it has a header and the numbers of its entries. -/
structure SameSheet (m m' : MergedSheet) : Prop where
  sheet : m'.sheet = { m.sheet with hasHeader := m'.sheet.hasHeader }
  plan : planHeader m'.sheet.columns = planHeader m.sheet.columns
  layout : m'.layout.map (m'.entries[·]?) = m.layout.map (m.entries[·]?)
  rows : (m.entries.map SheetEntry.stream).Nodup → ∀ w, m.SameRows m' w

theorem sameSheet_interleaved (apart : ((columnsOf entries).map Column.order).Nodup)
    (perm : entries.Perm entries') (name : String) (order : Option Int) (reading : Nat) :
    SameSheet (interleaved name order entries reading)
      (interleaved name order entries' reading) := by
  have same := withEntries_interleave apart perm
  have columns : (interleaved name order entries' reading).sheet.columns =
      (interleaved name order entries reading).sheet.columns := by
    show (interleave (entryColumns entries')).map Prod.fst = _
    rw [← map_fst_withEntries entries', ← same, map_fst_withEntries]
    rfl
  have layout : (interleaved name order entries' reading).layout.map (entries'[·]?) =
      (interleaved name order entries reading).layout.map (entries[·]?) := by
    show ((interleave (entryColumns entries')).map Prod.snd).map _ = _
    rw [← map_snd_withEntries entries', ← same, map_snd_withEntries]
    rfl
  refine ⟨?_, congrArg planHeader columns, layout, fun own w => ?_⟩
  · show Sheet.mk name _ _ order = Sheet.mk name _ _ order
    rw [show (interleave (entryColumns entries')).map Prod.fst =
      (interleave (entryColumns entries)).map Prod.fst from columns]
    rfl
  · exact MergedSheet.Twin.sameRows ⟨columns, layout, perm, rfl⟩ own w

/-! ### Two orders of entries -/

/-- Merging both orders of entries fails in the same way, for the labels, or gives the same sheet. -/
structure MergesAlike (name : String) (order : Option Int) (strict : Bool) (w : Workspace)
    (entries entries' : List SheetEntry) : Prop where
  fails : ∀ failure w', Fails (merge name order entries strict) w failure w' ↔
    Fails (merge name order entries' strict) w failure w'
  labels : ∀ failure w', Fails (merge name order entries strict) w failure w' →
    ∃ gap, failure = .mergeHeader ("sheet " ++ Text.quoted name) gap
  succeeds : ∀ m w', Yields (merge name order entries strict) w m w' →
    ∃ m', Yields (merge name order entries' strict) w m' w' ∧ SameSheet m m'

theorem mergesAlike_of_perm (several : 2 ≤ entries.length)
    (apart : ((columnsOf entries).map Column.order).Nodup) (perm : entries.Perm entries')
    (name : String) (order : Option Int) (strict : Bool) (w : Workspace) :
    MergesAlike name order strict w entries entries' := by
  have apart' : ((columnsOf entries').map Column.order).Nodup :=
    ((perm.flatMap_right _).map _).nodup_iff.mp apart
  have run := run_merge_of_apart several apart name order strict w
  have run' := run_merge_of_apart (perm.length_eq ▸ several) apart' name order strict w
  have columns : (interleave (entryColumns entries')).map Prod.fst =
      (interleave (entryColumns entries)).map Prod.fst := by
    rw [← map_fst_withEntries entries', ← withEntries_interleave apart perm, map_fst_withEntries]
  rw [columns] at run'
  cases checked : checkMergeHeaders ((interleave (entryColumns entries)).map Prod.fst) with
  | error gap =>
    rw [checked] at run run'
    refine ⟨fun failure w' => ?_, fun failure w' fails => ?_, fun m w' yields => ?_⟩
    · unfold Fails
      rw [run, run']
    · cases run.symm.trans fails
      exact ⟨gap, rfl⟩
    · cases run.symm.trans yields
  | ok done =>
    rw [checked] at run run'
    have merged : Yields (merge name order entries strict) w
        (interleaved name order entries w.nextReading)
        { w with nextReading := w.nextReading + 1 } := run
    have merged' : Yields (merge name order entries' strict) w
        (interleaved name order entries' w.nextReading)
        { w with nextReading := w.nextReading + 1 } := run'
    refine ⟨fun failure w' => ?_, fun failure w' fails => ?_, fun m w' yields => ?_⟩
    · exact iff_of_false merged.not_fails merged'.not_fails
    · exact absurd fails merged.not_fails
    · obtain ⟨rfl, rfl⟩ := yields.unique merged
      exact ⟨_, merged', sameSheet_interleaved apart perm name order w.nextReading⟩

/-- **The order of several entries with columns of different orders does not matter**: whichever it
is, merging refuses the same label at the same order, or gives the same columns, the same header over
them and the same rows of cells. The entries that sources give read streams of their own. -/
theorem merge_of_perm :
    (∀ entries entries' : List SheetEntry, 2 ≤ entries.length →
      ((columnsOf entries).map Column.order).Nodup → entries.Perm entries' →
      ∀ name order strict w, MergesAlike name order strict w entries entries') ∧
    ∀ sources w groups w', (sources.map Prod.snd).Nodup →
      (∀ source ∈ sources, source.2 < w.supplies.length) →
      Yields (groupSheets sources) w groups w' →
      ∀ g ∈ groups, (g.2.entries.map SheetEntry.stream).Nodup :=
  ⟨fun _ _ several apart perm => mergesAlike_of_perm several apart perm,
    fun _ _ _ _ independent present grouped =>
      nodup_streams_of_groupSheets independent present grouped⟩

/-- Two entries with a column each. -/
def sampleEntries : List SheetEntry :=
  [⟨1, sampleType, sampleSheet "left" "a" 1⟩, ⟨2, sampleType, sampleSheet "right" "b" 2⟩]

/-- The layout of the sheet that merging gave. -/
def layout? (outcome : Except Failure MergedSheet × Workspace) : Option (List Nat) :=
  outcome.1.toOption.map MergedSheet.layout

theorem exists_yields_of_layout? {x : WorkspaceM MergedSheet} {w : Workspace} {layout : List Nat}
    (isLayout : layout? (x.run.run w) = some layout) :
    ∃ m w', Yields x w m w' ∧ m.layout = layout := by
  cases outcome : x.run.run w with
  | mk result w' =>
    rw [outcome] at isLayout
    cases result with
    | error e => cases isLayout
    | ok m =>
      cases isLayout
      exact ⟨m, w', outcome, rfl⟩

/-- The two entries in both orders, and the entries that a source gives. -/
theorem merge_of_perm_sample :
    (∃ m m' w', Yields (merge "both" none sampleEntries false) sampleCopied m w' ∧
      Yields (merge "both" none sampleEntries.reverse false) sampleCopied m' w' ∧
      m.layout = [0, 1] ∧ m'.layout = [1, 0] ∧ SameSheet m m' ∧ ∀ w, m.SameRows m' w) ∧
    ∀ g ∈ sampleGroups, (g.2.entries.map SheetEntry.stream).Nodup := by
  constructor
  · obtain ⟨m, w', merged, layout⟩ := exists_yields_of_layout?
      (show layout? ((merge "both" none sampleEntries false).run.run sampleCopied) = some [0, 1] by
        cbv)
    obtain ⟨m₁, w₁, merged₁, layout₁⟩ := exists_yields_of_layout?
      (show layout? ((merge "both" none sampleEntries.reverse false).run.run sampleCopied) =
        some [1, 0] by cbv)
    have alike := merge_of_perm.1 sampleEntries sampleEntries.reverse (by decide) (by decide)
      (List.reverse_perm _).symm "both" none false sampleCopied
    obtain ⟨m', merged', same⟩ := alike.succeeds m w' merged
    obtain ⟨rfl, rfl⟩ := merged₁.unique merged'
    have own : (m.entries.map SheetEntry.stream).Nodup := by
      rw [(of_merge merged).1]
      decide
    exact ⟨m, m₁, w₁, merged, merged', layout, layout₁, same, same.rows own⟩
  · have grouped : Yields (groupSheets [("readings", 0)]) sampleWorkspace sampleGroups
      sampleCopied := rfl
    exact merge_of_perm.2 [("readings", 0)] sampleWorkspace sampleGroups sampleCopied (by decide)
      (by decide) grouped

end Workspace

end SheetExport
