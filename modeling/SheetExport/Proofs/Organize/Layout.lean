/-
**Merged sheets: their entries, columns and readings.**

* `MergedSheet.LaidOut` — every column of every entry has exactly one place in the sheet, with the
  index of its entry in the layout at that place;
* `arrangement` — the places that merging gives to columns (`arranged_of_merge`);
* `Merged` — what merging makes of groups: a laid out sheet for each, with the entries of the group
  and a reading of its own that has not begun;
* `merged_of_mapM`, `perm_of_orderSheets`: merging does that, and ordering only moves groups.
-/

import Mathlib.Data.List.Forall2
import SheetExport.Proofs.Organize.Supplies

namespace SheetExport

/-- Every column of every entry has one place, and the layout tells its entry. -/
structure MergedSheet.LaidOut (m : MergedSheet) : Prop where
  length : m.layout.length = m.sheet.columns.length
  columns : (m.sheet.columns.zip m.layout).Perm (entryColumns m.entries)

theorem laidOut_of_arranged {m : MergedSheet} {arranged : List (Column × Nat)}
    (columns : m.sheet.columns = arranged.map Prod.fst) (layout : m.layout = arranged.map Prod.snd)
    (perm : arranged.Perm (entryColumns m.entries)) : m.LaidOut := by
  refine ⟨by rw [columns, layout, List.length_map, List.length_map], ?_⟩
  rw [columns, layout, List.zip_map', List.map_id']
  exact perm

theorem entryColumns_single (entry : SheetEntry) :
    entryColumns [entry] = entry.sheet.columns.map (·, 0) := by
  simp [entryColumns]

/-- The columns of entries as merging arranges them: by ascending order if there are several entries
and no order is shared, else one entry after the other. -/
def arrangement (entries : List SheetEntry) : List (Column × Nat) :=
  if 2 ≤ entries.length ∧ (sharedOrdersOf (entryColumns entries)).isEmpty = true then
    interleave (entryColumns entries)
  else entryColumns entries

theorem perm_arrangement (entries : List SheetEntry) :
    (arrangement entries).Perm (entryColumns entries) := by
  unfold arrangement
  split
  · exact List.mergeSort_perm _ _
  · exact List.Perm.refl _

/-- A column stands in the layout with the index of an entry that has it. -/
theorem exists_entry_of_mem_entryColumns {entries : List SheetEntry} {column : Column} {index : Nat}
    (member : (column, index) ∈ entryColumns entries) :
    ∃ entry, entries[index]? = some entry ∧ column ∈ entry.sheet.columns := by
  obtain ⟨⟨position, entry⟩, inZip, inEntry⟩ := List.mem_flatMap.mp member
  obtain ⟨c, isColumn, same⟩ := List.mem_map.mp inEntry
  cases same
  obtain ⟨i, below, same⟩ := List.mem_iff_getElem.mp inZip
  simp only [List.getElem_zip, List.getElem_range, Prod.mk.injEq] at same
  obtain ⟨rfl, rfl⟩ := same
  exact ⟨_, List.getElem?_eq_getElem _, isColumn⟩

namespace Workspace

variable {w w' : Workspace}

theorem of_newReading {reading : Nat} (yields : Yields newReading w reading w') :
    reading = w.nextReading ∧ w' = { w with nextReading := w.nextReading + 1 } := by
  cases yields
  exact ⟨rfl, rfl⟩

/-- Only the catalog changed, and one reading was numbered. -/
structure Numbers (w w' : Workspace) (reading : Nat) : Prop where
  reading : reading = w.nextReading
  nextReading : w'.nextReading = w.nextReading + 1
  supplies : w'.supplies = w.supplies
  ended : w'.ended = w.ended

theorem numbers_of_newReading {reading : Nat} (yields : Yields newReading w reading w') :
    Numbers w w' reading := by
  obtain ⟨same, rfl⟩ := of_newReading yields
  exact ⟨same, rfl, rfl, rfl⟩

theorem Numbers.after {w₁ : Workspace} {reading : Nat} (numbers : Numbers w₁ w' reading)
    (keeps : Keeps w w₁ []) (supplies : w₁.supplies = w.supplies) : Numbers w w' reading :=
  ⟨numbers.reading.trans keeps.nextReading, by rw [numbers.nextReading, keeps.nextReading],
    numbers.supplies.trans supplies, numbers.ended.trans keeps.ended⟩

/-- The last step of merging several entries: the columns are arranged already. -/
theorem of_assembled {name : String} {order : Option Int} {hasHeader : Bool}
    {entries : List SheetEntry} {arranged : List (Column × Nat)} {m : MergedSheet}
    (yields : Yields (do
      let reading ← newReading
      return MergedSheet.mk ⟨name, arranged.map Prod.fst, hasHeader, order⟩ entries
        (arranged.map Prod.snd) reading) w m w') :
    m.entries = entries ∧ m.sheet.columns = arranged.map Prod.fst ∧
      m.layout = arranged.map Prod.snd ∧ Numbers w w' m.reading := by
  obtain ⟨reading, w₁, numbered, last⟩ := yields_bind_iff.mp yields
  obtain ⟨rfl, rfl⟩ := yields_pure_iff.mp last
  exact ⟨rfl, rfl, rfl, numbers_of_newReading numbered⟩

/-- **Merging arranges the columns of its entries.** -/
theorem arranged_of_merge {name : String} {order : Option Int} {entries : List SheetEntry}
    {strict : Bool} {m : MergedSheet} (yields : Yields (merge name order entries strict) w m w') :
    m.entries = entries ∧ m.sheet.columns = (arrangement entries).map Prod.fst ∧
      m.layout = (arrangement entries).map Prod.snd ∧ Numbers w w' m.reading := by
  unfold merge at yields
  split at yields
  · exact absurd yields (not_yields_throw _)
  · rename_i only
    obtain ⟨reading, w₁, numbered, last⟩ := yields_bind_iff.mp yields
    obtain ⟨rfl, rfl⟩ := yields_pure_iff.mp last
    have alone : arrangement [only] = only.sheet.columns.map (·, 0) := by
      rw [arrangement, if_neg fun several => absurd several.1 (by simp), entryColumns_single]
    rw [alone]
    refine ⟨rfl, ?_, ?_, numbers_of_newReading numbered⟩
    · rw [List.map_map]
      exact (List.map_id _).symm
    · exact List.ext_getElem (by simp) (by simp)
  · rename_i first rest several
    have two : 2 ≤ (first :: rest).length := by
      cases rest with
      | nil => exact absurd rfl several
      | cons => simp
    dsimp only at yields
    split at yields
    · rename_i apart
      rw [arrangement, if_pos ⟨two, apart⟩]
      split at yields
      · obtain ⟨_, _, failed, _⟩ := yields_bind_iff.mp yields
        exact absurd failed (not_yields_throw _)
      · obtain ⟨arranged, w₁, sorted, last⟩ := yields_bind_iff.mp yields
        obtain ⟨rfl, rfl⟩ := yields_pure_iff.mp sorted
        exact of_assembled last
    · rename_i collide
      rw [arrangement, if_neg fun apart => collide apart.2]
      split at yields
      · obtain ⟨_, _, failed, _⟩ := yields_bind_iff.mp yields
        exact absurd failed (not_yields_throw _)
      · obtain ⟨_, w₁, warned, others⟩ := yields_bind_iff.mp yields
        obtain ⟨arranged, w₂, inTurn, last⟩ := yields_bind_iff.mp others
        obtain ⟨rfl, rfl⟩ := yields_pure_iff.mp inTurn
        obtain ⟨_, keeps, supplies⟩ := keeps_of_onCatalog warned
        obtain ⟨entries, columns, layout, numbers⟩ := of_assembled last
        exact ⟨entries, columns, layout, numbers.after keeps supplies⟩

/-- **Merging keeps every column once.** -/
theorem of_merge {name : String} {order : Option Int} {entries : List SheetEntry} {strict : Bool}
    {m : MergedSheet} (yields : Yields (merge name order entries strict) w m w') :
    m.entries = entries ∧ m.LaidOut ∧ Numbers w w' m.reading := by
  obtain ⟨rfl, columns, layout, numbers⟩ := arranged_of_merge yields
  exact ⟨rfl, laidOut_of_arranged columns layout (perm_arrangement _), numbers⟩

/-- What merging makes of groups: a laid out sheet for each, with a reading of its own. -/
structure Merged (w w' : Workspace) (groups : SheetGroups) (sheets : List MergedSheet) : Prop where
  each : List.Forall₂ (fun group m => m.entries = group.2.entries ∧ m.LaidOut) groups sheets
  readings : sheets.map MergedSheet.reading = List.range' w.nextReading sheets.length
  supplies : w'.supplies = w.supplies
  ended : w'.ended = w.ended

theorem merged_of_mapM {groups : SheetGroups} {strict : Bool} {sheets : List MergedSheet}
    (yields : Yields (groups.mapM fun (name, group) => merge name group.order group.entries strict)
      w sheets w') : Merged w w' groups sheets := by
  induction groups generalizing w sheets with
  | nil =>
    obtain ⟨rfl, rfl⟩ := yields_mapM_nil_iff.mp yields
    exact ⟨.nil, rfl, rfl, rfl⟩
  | cons group groups ih =>
    obtain ⟨m, w₁, rest, rfl, first, others⟩ := yields_mapM_cons_iff.mp yields
    obtain ⟨entries, laidOut, numbers⟩ := of_merge first
    obtain ⟨each, readings, supplies, ended⟩ := ih others
    refine ⟨.cons ⟨entries, laidOut⟩ each, ?_, supplies.trans numbers.supplies,
      ended.trans numbers.ended⟩
    rw [List.map_cons, List.length_cons, List.range'_succ, readings, numbers.reading,
      numbers.nextReading]

/-- Ordering only moves groups. -/
theorem perm_of_orderSheets {groups ordered : SheetGroups}
    (sorted : orderSheets groups = .ok ordered) : ordered.Perm groups := by
  unfold orderSheets at sorted
  split at sorted
  · cases sorted
  · cases sorted
    refine (List.Perm.append_left _ (List.mergeSort_perm _ _)).trans ?_
    have split := List.filter_append_perm (fun g : String × SheetGroup => g.2.order.isNone) groups
    simpa using split

end Workspace

end SheetExport
