/-
**Where the columns of entries stand in a merged sheet.**

* `fromEntry places index` — the columns at the places of one entry; for the columns of all entries
  these are the entry's own (`fromEntry_entryColumns`), and a stable sort moves none of them past
  another if they are ascending (`fromEntry_interleave`);
* `MergedSheet.Arranged` — each column of each entry has one place with the entry's index, columns of
  several entries are ascending where no order is shared and stand one entry after the other where
  one is;
* `arranged_of_taken`: merging a group gives such a sheet, and entries that come from sources keep
  their columns in order.
-/

import SheetExport.Proofs.Organize.EntryOrder

namespace SheetExport

/-! ### The places of one entry -/

/-- The columns that have an entry's index, in the order in which they stand. -/
def fromEntry (places : List (Column × Nat)) (index : Nat) : List Column :=
  (places.filter fun place => place.2 = index).map Prod.fst

section Places

variable {places places' : List (Column × Nat)} {index : Nat}

theorem fromEntry_append (places places' : List (Column × Nat)) (index : Nat) :
    fromEntry (places ++ places') index = fromEntry places index ++ fromEntry places' index := by
  rw [fromEntry, List.filter_append, List.map_append]
  rfl

theorem perm_fromEntry (perm : places.Perm places') (index : Nat) :
    (fromEntry places index).Perm (fromEntry places' index) :=
  (perm.filter _).map _

/-- The columns of one entry all have its index. -/
theorem fromEntry_block (columns : List Column) (own index : Nat) :
    fromEntry (columns.map (·, own)) index = if own = index then columns else [] := by
  rw [fromEntry, List.filter_map]
  split
  · rename_i same
    have all : ∀ column ∈ columns,
        ((fun place : Column × Nat => decide (place.2 = index)) ∘ (·, own)) column = true :=
      fun _ _ => decide_eq_true same
    rw [List.filter_eq_self.mpr all, List.map_map]
    exact List.map_id _
  · rename_i other
    have none : ∀ column ∈ columns,
        ¬ ((fun place : Column × Nat => decide (place.2 = index)) ∘ (·, own)) column = true :=
      fun _ _ same => other (of_decide_eq_true same)
    rw [List.filter_eq_nil_iff.mpr none]
    rfl

/-- The columns of entries that are numbered from a start on. -/
theorem fromEntry_numbered (entries : List SheetEntry) (start index : Nat) :
    fromEntry (((List.range' start entries.length).zip entries).flatMap fun (own, entry) =>
        entry.sheet.columns.map (·, own)) index =
      if start ≤ index then (entries[index - start]?.map (·.sheet.columns)).getD [] else [] := by
  induction entries generalizing start with
  | nil => simp [fromEntry]
  | cons first rest ih =>
    rw [List.length_cons, List.range'_succ, List.zip_cons_cons, List.flatMap_cons, fromEntry_append,
      fromEntry_block, ih]
    rcases Nat.lt_trichotomy start index with before | rfl | behind
    · obtain ⟨k, rfl⟩ := Nat.exists_eq_add_of_lt before
      rw [if_neg (by omega), if_pos (by omega), if_pos (by omega),
        show start + k + 1 - (start + 1) = k by omega, show start + k + 1 - start = k + 1 by omega]
      rfl
    · rw [if_pos rfl, if_neg (by omega), if_pos (Nat.le_refl _), Nat.sub_self, List.append_nil]
      rfl
    · rw [if_neg (by omega), if_neg (by omega), if_neg (by omega)]
      rfl

/-- Each entry has its own columns. -/
theorem fromEntry_entryColumns {entries : List SheetEntry} {entry : SheetEntry}
    (isEntry : entries[index]? = some entry) :
    fromEntry (entryColumns entries) index = entry.sheet.columns := by
  have numbered := fromEntry_numbered entries 0 index
  rw [if_pos (Nat.zero_le _), Nat.sub_zero, isEntry, ← List.range_eq_range'] at numbered
  exact numbered

/-- **A stable sort keeps ascending columns of an entry in their order.** -/
theorem fromEntry_interleave
    (ascending : (fromEntry places index).Pairwise (·.order ≤ ·.order)) :
    fromEntry (interleave places) index = fromEntry places index := by
  have trans (a b c : Column × Nat) (first : decide (a.1.order ≤ b.1.order) = true)
      (second : decide (b.1.order ≤ c.1.order) = true) : decide (a.1.order ≤ c.1.order) = true :=
    decide_eq_true (Int.le_trans (of_decide_eq_true first) (of_decide_eq_true second))
  have total (a b : Column × Nat) :
      (decide (a.1.order ≤ b.1.order) || decide (b.1.order ≤ a.1.order)) = true := by
    simpa using Int.le_total a.1.order b.1.order
  have sorted : (places.filter fun place => place.2 = index).Pairwise
      fun a b => decide (a.1.order ≤ b.1.order) = true :=
    (List.pairwise_map.mp ascending).imp fun le => decide_eq_true le
  have own : (places.filter fun place => place.2 = index).Sublist
      ((interleave places).filter fun place => place.2 = index) := by
    have kept := (List.sublist_mergeSort trans total sorted List.filter_sublist).filter
      fun place => place.2 = index
    rwa [List.filter_filter, List.filter_congr fun place _ => Bool.and_self _] at kept
  have perm : (interleave places).Perm places := List.mergeSort_perm _ _
  have length := (perm.filter fun place => place.2 = index).length_eq
  rw [fromEntry, fromEntry, own.eq_of_length length.symm]

end Places

/-! ### Arranged sheets -/

namespace MergedSheet

/-- The columns that the layout gives to an entry. -/
def columnsFrom (m : MergedSheet) (index : Nat) : List Column :=
  fromEntry (m.sheet.columns.zip m.layout) index

/-- There are several entries, and no two of their columns have one order. -/
def IsInterleaved (m : MergedSheet) : Prop :=
  2 ≤ m.entries.length ∧ ((columnsOf m.entries).map Column.order).Nodup

/-- Each column of each entry has one place, with the entry's index. -/
structure Arranged (m : MergedSheet) : Prop where
  length : m.layout.length = m.sheet.columns.length
  entry : ∀ index ∈ m.layout, index < m.entries.length
  once : ∀ index entry, m.entries[index]? = some entry →
    (m.columnsFrom index).Perm entry.sheet.columns
  /-- An entry keeps its columns in order, unless they are to be interleaved and not ascending. -/
  inOrder : ∀ index entry, m.entries[index]? = some entry →
    (m.IsInterleaved → entry.sheet.columns.Pairwise (·.order ≤ ·.order)) →
      m.columnsFrom index = entry.sheet.columns
  ascending : m.IsInterleaved → m.sheet.columns.Pairwise (·.order < ·.order)
  /-- The columns of each entry stand behind those of the entry before, with its index. -/
  inTurn : ¬ m.IsInterleaved → m.sheet.columns = columnsOf m.entries ∧
    m.sheet.columns.zip m.layout = entryColumns m.entries

end MergedSheet

section Arranged

variable {m : MergedSheet}

/-- The arrangement goes by whether the columns are to be interleaved. -/
theorem arrangement_eq (m : MergedSheet) [Decidable m.IsInterleaved] :
    arrangement m.entries =
      if m.IsInterleaved then interleave (entryColumns m.entries) else entryColumns m.entries := by
  have apart := isEmpty_sharedOrdersOf_iff (entryColumns m.entries)
  rw [orders_entryColumns] at apart
  have same : (2 ≤ m.entries.length ∧ (sharedOrdersOf (entryColumns m.entries)).isEmpty = true) ↔
      m.IsInterleaved := and_congr_right fun _ => apart
  rw [arrangement]
  exact if_congr same rfl rfl

/-- Ascending orders that are all different ascend strictly. -/
theorem pairwise_interleave_of_apart {entries : List SheetEntry}
    (apart : ((columnsOf entries).map Column.order).Nodup) :
    ((interleave (entryColumns entries)).map Prod.fst).Pairwise (·.order < ·.order) := by
  have perm : (interleave (entryColumns entries)).Perm (entryColumns entries) :=
    List.mergeSort_perm _ _
  have different : ((interleave (entryColumns entries)).map (·.1.order)).Nodup := by
    rw [(perm.map _).nodup_iff, orders_entryColumns]
    exact apart
  have ascending := pairwise_mergeSort_by (·.1.order) (entryColumns entries)
  rw [List.pairwise_map]
  refine (ascending.and (List.pairwise_map.mp different)).imp fun both => ?_
  exact lt_of_le_of_ne both.1 both.2

/-- **The arrangement of its entries makes a sheet arranged.** -/
theorem arranged_of_arrangement (columns : m.sheet.columns = (arrangement m.entries).map Prod.fst)
    (layout : m.layout = (arrangement m.entries).map Prod.snd) : m.Arranged := by
  classical
  have places : m.sheet.columns.zip m.layout = arrangement m.entries := by
    rw [columns, layout, List.zip_map', List.map_id']
  have perm := perm_arrangement m.entries
  refine ⟨?_, fun index member => ?_, fun index entry isEntry => ?_, fun index entry isEntry => ?_,
    fun interleaved => ?_, fun inTurn => ?_⟩
  · rw [columns, layout, List.length_map, List.length_map]
  · rw [layout] at member
    obtain ⟨⟨column, _⟩, isPlace, rfl⟩ := List.mem_map.mp member
    obtain ⟨entry, isEntry, -⟩ := exists_entry_of_mem_entryColumns (perm.mem_iff.mp isPlace)
    exact (List.getElem?_eq_some_iff.mp isEntry).1
  · rw [MergedSheet.columnsFrom, places, ← fromEntry_entryColumns isEntry]
    exact perm_fromEntry perm index
  · intro ascending
    have own := fromEntry_entryColumns isEntry
    rw [MergedSheet.columnsFrom, places, arrangement_eq]
    split
    · rename_i interleaved
      rw [fromEntry_interleave (own ▸ ascending interleaved), own]
    · exact own
  · rw [columns, arrangement_eq, if_pos interleaved]
    exact pairwise_interleave_of_apart interleaved.2
  · have asTaken := arrangement_eq m
    rw [if_neg inTurn] at asTaken
    rw [places, columns, asTaken]
    exact ⟨map_fst_entryColumns m.entries, rfl⟩

end Arranged

namespace Workspace

/-- The entry is one that grouping sources made. -/
def IsGrouped (entry : SheetEntry) : Prop :=
  ∃ w sources groups w', w.catalog.Reachable ∧ Yields (groupSheets sources) w groups w' ∧
    ∃ group ∈ groups, entry ∈ group.2.entries

theorem IsGrouped.orderly {entry : SheetEntry} (grouped : IsGrouped entry) :
    entry.sheet.Orderly := by
  obtain ⟨w, sources, groups, w', reachable, yields, group, isGroup, member⟩ := grouped
  have orderly := (upholds_groupSheets_orderly sources).of_yields reachable yields
  exact orderly.2 group isGroup entry member

/-- **Merging a group gives each column of each entry one place, with the entry's index.** Columns of
several entries ascend if all orders are different, and else stand one entry after the other; the
columns of an entry that a source gave keep their order. -/
theorem arranged_of_taken {name : String} {group taken : SheetGroup} {entries : List SheetEntry}
    {strict : Bool} {w w' : Workspace} {m : MergedSheet}
    (takes : group.take = .ok (entries, taken))
    (merges : Yields (merge name group.order entries strict) w m w') :
    m.entries = group.entries ∧ m.Arranged ∧
      ∀ index entry, group.entries[index]? = some entry → IsGrouped entry →
        m.columnsFrom index = entry.sheet.columns := by
  have same : group.entries = entries := by
    unfold SheetGroup.take at takes
    split at takes <;> cases takes
    rfl
  obtain ⟨entriesSame, columns, layout, -⟩ := arranged_of_merge merges
  have arranged := arranged_of_arrangement (entriesSame ▸ columns) (entriesSame ▸ layout)
  rw [same]
  refine ⟨entriesSame, arranged, fun index entry isEntry grouped => ?_⟩
  rw [← entriesSame] at isEntry
  exact arranged.inOrder index entry isEntry fun _ => grouped.orderly.sorted

/-- Two entries whose columns are to be interleaved. -/
def wovenEntries : List SheetEntry :=
  [⟨1, sampleType, ⟨"both", [sampleColumn "a" 1, sampleColumn "c" 3], true, none⟩⟩,
    ⟨2, sampleType, sampleSheet "both" "b" 2⟩]

/-- Takes the entries of the only group, and merges them. -/
def mergeOnly : SheetGroups → WorkspaceM MergedSheet
  | [(name, group)] =>
    match group.take with
    | .ok (entries, _) => merge name group.order entries false
    | .error failure => throw failure
  | _ => throw (.noEntries "")

theorem of_mergeOnly {groups : SheetGroups} {w w' : Workspace} {m : MergedSheet}
    (yields : Yields (mergeOnly groups) w m w') :
    ∃ name group entries taken, groups = [(name, group)] ∧ group.take = .ok (entries, taken) ∧
      Yields (merge name group.order entries false) w m w' := by
  unfold mergeOnly at yields
  split at yields
  · rename_i name group
    split at yields
    · rename_i entries taken takes
      exact ⟨name, group, entries, taken, rfl, takes, yields⟩
    · exact absurd yields (not_yields_throw _)
  · exact absurd yields (not_yields_throw _)

/-- A column of the second entry stands within those of the first; two sources with columns of one
order have theirs in turn. -/
theorem arranged_of_taken_sample :
    (∃ m w', Yields (merge "both" none wovenEntries true) sampleCopied m w' ∧
      m.layout = [0, 1, 0] ∧ m.entries = wovenEntries ∧ m.Arranged) ∧
    ∃ group m w', Yields (groupSheets [("paid", 0), ("due", 1)] >>= mergeOnly)
        labelledWorkspace m w' ∧ m.layout = [0, 1] ∧ m.entries = SheetGroup.entries group ∧
      ∀ index entry, group.entries[index]? = some entry →
        m.columnsFrom index = entry.sheet.columns := by
  constructor
  · obtain ⟨m, w', merges, layout⟩ := exists_yields_of_layout?
      (show layout? ((merge "both" none wovenEntries true).run.run sampleCopied) = some [0, 1, 0] by
        cbv)
    have taken : (SheetGroup.mk none wovenEntries false).take =
      .ok (wovenEntries, ⟨none, wovenEntries, true⟩) := rfl
    obtain ⟨same, arranged, -⟩ := arranged_of_taken taken merges
    exact ⟨m, w', merges, layout, same, arranged⟩
  · obtain ⟨m, w', yields, layout⟩ := exists_yields_of_layout?
      (show layout? ((groupSheets [("paid", 0), ("due", 1)] >>= mergeOnly).run.run
        labelledWorkspace) = some [0, 1] by decide +kernel)
    obtain ⟨groups, w, grouped, merged⟩ := yields_bind_iff.mp yields
    obtain ⟨name, group, entries, taken, rfl, takes, merges⟩ := of_mergeOnly merged
    obtain ⟨same, -, inOrder⟩ := arranged_of_taken takes merges
    refine ⟨group, m, w', yields, layout, same, fun index entry isEntry => ?_⟩
    exact inOrder index entry isEntry ⟨labelledWorkspace, _, _, w, .empty, grouped, _,
      List.mem_singleton_self _, List.mem_of_getElem? isEntry⟩

end Workspace

end SheetExport
