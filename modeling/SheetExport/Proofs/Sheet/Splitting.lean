/-
**The sheets that the columns of a sheet go to.**

* `pairwise_distinct_map` — keys stand in the order in which something first has them;
* `perm_flatMap_groupBy` — the groups of a list have each of its elements once;
* `Sheet.SplitsInto s parts` — every column is, in its order, in the one part of the name that it
  asks for; the sheet's own part comes first and the others by their first columns;
* `Sheet.splitsInto_split`: a sheet is split so.
-/

import Mathlib.Data.List.Nodup
import Mathlib.Data.List.Perm.Basic
import SheetExport.Sheet.Column

namespace SheetExport

/-! ### Groups by a key -/

section Grouping

variable {α κ : Type} [DecidableEq κ] (key : α → κ)

theorem map_fst_groupBy (xs : List α) : (groupBy key xs).map Prod.fst = distinct (xs.map key) := by
  rw [groupBy, List.map_map]
  exact List.map_id _

/-- A group has a key of the list, and just the elements of this key. -/
theorem mem_groupBy_iff {xs members : List α} {k : κ} :
    (k, members) ∈ groupBy key xs ↔ k ∈ xs.map key ∧ members = xs.filter (key · = k) := by
  rw [groupBy, List.mem_map]
  constructor
  · rintro ⟨k', isKey, same⟩
    cases same
    exact ⟨mem_distinct.mp isKey, rfl⟩
  · rintro ⟨isKey, rfl⟩
    exact ⟨k, mem_distinct.mpr isKey, rfl⟩

/-- No group is empty. -/
theorem ne_nil_of_mem_groupBy {xs members : List α} {k : κ}
    (isGroup : (k, members) ∈ groupBy key xs) : members ≠ [] := by
  obtain ⟨isKey, rfl⟩ := (mem_groupBy_iff key).mp isGroup
  obtain ⟨x, isElement, rfl⟩ := List.mem_map.mp isKey
  exact List.ne_nil_of_mem (List.mem_filter.mpr ⟨isElement, decide_eq_true rfl⟩)

/-- **Keys stand in the order in which something first has them.** -/
theorem pairwise_distinct_map (xs : List α) :
    (distinct (xs.map key)).Pairwise fun a b =>
      xs.findIdx (key · = a) < xs.findIdx (key · = b) := by
  induction xs with
  | nil => exact .nil
  | cons x xs ih =>
    rw [List.map_cons, distinct, List.pairwise_cons]
    constructor
    · intro k isLater
      have different : k ≠ key x := of_decide_eq_true (List.mem_filter.mp isLater).2
      rw [List.findIdx_cons, List.findIdx_cons, decide_eq_true rfl,
        decide_eq_false different.symm]
      exact Nat.succ_pos _
    · -- Of the later keys, none is that of the first element, which only shifts them.
      refine (ih.filter _).imp_of_mem fun {a b} isKey isKey' before => ?_
      have notFirst : a ≠ key x := of_decide_eq_true (List.mem_filter.mp isKey).2
      have notFirst' : b ≠ key x := of_decide_eq_true (List.mem_filter.mp isKey').2
      rw [List.findIdx_cons, List.findIdx_cons, decide_eq_false notFirst.symm,
        decide_eq_false notFirst'.symm]
      exact Nat.succ_lt_succ before

/-- Elements by keys that are all different and that every element has one of. -/
theorem perm_flatMap_filter (xs : List α) {ks : List κ} (different : ks.Nodup)
    (covered : ∀ x ∈ xs, key x ∈ ks) :
    (ks.flatMap fun k => xs.filter (key · = k)).Perm xs := by
  induction ks generalizing xs with
  | nil =>
    rw [List.eq_nil_iff_forall_not_mem.mpr fun x isElement => List.not_mem_nil (covered x isElement)]
    exact .nil
  | cons k ks ih =>
    obtain ⟨notLater, later⟩ := List.nodup_cons.mp different
    have others : ∀ k' ∈ ks, (xs.filter fun x => !decide (key x = k)).filter (key · = k') =
        xs.filter (key · = k') := by
      intro k' isKey
      rw [List.filter_filter]
      refine List.filter_congr fun x _ => ?_
      by_cases same : key x = k'
      · have : key x ≠ k := fun first => notLater (first ▸ same ▸ isKey)
        simp [same, same ▸ this]
      · simp [same]
    have rest := ih (xs.filter fun x => !decide (key x = k)) later fun x isElement => by
      obtain ⟨inList, notFirst⟩ := List.mem_filter.mp isElement
      exact (List.mem_cons.mp (covered x inList)).resolve_left (by simpa using notFirst)
    rw [List.flatMap_congr others] at rest
    rw [List.flatMap_cons]
    exact (rest.append_left _).trans (List.filter_append_perm _ xs)

/-- **The groups of a list have each of its elements once.** -/
theorem perm_flatMap_groupBy (xs : List α) : ((groupBy key xs).flatMap Prod.snd).Perm xs := by
  rw [groupBy, List.flatMap_map]
  exact perm_flatMap_filter key xs (distinct_nodup _) fun x isElement =>
    mem_distinct.mpr (List.mem_map_of_mem isElement)

end Grouping

/-! ### Splits -/

/-- The name of the sheet that a column goes to: the one that it asks for, or else the own one. -/
def Column.target (own : String) (c : Column) : String :=
  if c.sheetName = "" then own else c.sheetName

namespace Sheet

/-- The parts of a sheet, each under its name. -/
structure SplitsInto (s : Sheet) (parts : List (String × Sheet)) : Prop where
  /-- A part is kept under its own name. -/
  named : ∀ p ∈ parts, p.2.name = p.1
  /-- No two parts have one name. -/
  different : (parts.map Prod.fst).Nodup
  /-- A part has just the columns that go there, in their order. -/
  columns : ∀ p ∈ parts, p.2.columns = s.columns.filter (·.target s.name = p.1)
  /-- The parts together have every column once. -/
  once : (parts.flatMap (·.2.columns)).Perm s.columns
  /-- No part is empty. -/
  nonempty : ∀ p ∈ parts, p.2.columns ≠ []
  hasHeader : ∀ p ∈ parts, p.2.hasHeader = s.hasHeader
  /-- Only the sheet's own part keeps the order. -/
  order : ∀ p ∈ parts, p.2.order = if p.1 = s.name then s.order else none
  /-- The own part comes before all others, and these are in the order of their first columns. -/
  inOrder : parts.Pairwise fun p q => q.1 ≠ s.name ∧
    (p.1 = s.name ∨
      s.columns.findIdx (·.target s.name = p.1) < s.columns.findIdx (·.target s.name = q.1))

/-- The columns by their sheets, the own one first. -/
theorem columnsBySheet_eq (s : Sheet) :
    s.columnsBySheet = (groupBy (Column.target s.name) s.columns).filter (·.1 = s.name) ++
      (groupBy (Column.target s.name) s.columns).filter (·.1 ≠ s.name) := rfl

/-- Only the places of the groups change. -/
theorem perm_columnsBySheet (s : Sheet) :
    s.columnsBySheet.Perm (groupBy (Column.target s.name) s.columns) := by
  have parts := List.filter_append_perm (fun p : String × List Column => decide (p.1 = s.name))
    (groupBy (Column.target s.name) s.columns)
  simpa [columnsBySheet_eq] using parts

/-- A part is that of a group of columns. -/
theorem exists_group_of_mem_split {s : Sheet} {p : String × Sheet} (isPart : p ∈ s.split) :
    ∃ columns, (p.1, columns) ∈ groupBy (Column.target s.name) s.columns ∧
      p.2 = ⟨p.1, columns, s.hasHeader, if p.1 = s.name then s.order else none⟩ := by
  obtain ⟨⟨name, columns⟩, isGroup, rfl⟩ := List.mem_map.mp isPart
  exact ⟨columns, (perm_columnsBySheet s).mem_iff.mp isGroup, rfl⟩

theorem map_fst_split (s : Sheet) : s.split.map Prod.fst = s.columnsBySheet.map Prod.fst :=
  List.map_map

/-- The sheets that the columns of a type go to have different names. -/
theorem nodup_split (s : Sheet) : (s.split.map Prod.fst).Nodup := by
  rw [map_fst_split, ((perm_columnsBySheet s).map Prod.fst).nodup_iff, map_fst_groupBy]
  exact distinct_nodup _

/-- The own part comes first, and the others by their first columns. -/
theorem pairwise_columnsBySheet (s : Sheet) :
    s.columnsBySheet.Pairwise fun p q => q.1 ≠ s.name ∧
      (p.1 = s.name ∨
        s.columns.findIdx (·.target s.name = p.1) < s.columns.findIdx (·.target s.name = q.1)) := by
  have inTurn := pairwise_distinct_map (Column.target s.name) s.columns
  have different := distinct_nodup (s.columns.map (Column.target s.name))
  rw [← map_fst_groupBy, List.pairwise_map] at inTurn
  rw [← map_fst_groupBy] at different
  rw [columnsBySheet_eq, List.pairwise_append]
  refine ⟨?_, ?_, fun p isOwn q isOther => ?_⟩
  · -- There is at most one own part.
    refine List.Pairwise.imp_of_mem (R := fun p q => p.1 ≠ q.1) ?_
      ((List.pairwise_map.mp different).filter _)
    intro p q isOwn isOwn' apart
    have same : p.1 = s.name := of_decide_eq_true (List.mem_filter.mp isOwn).2
    have same' : q.1 = s.name := of_decide_eq_true (List.mem_filter.mp isOwn').2
    exact absurd (same.trans same'.symm) apart
  · refine (inTurn.filter _).imp_of_mem fun {p q} _ isOther before => ⟨?_, Or.inr before⟩
    exact of_decide_eq_true (List.mem_filter.mp isOther).2
  · exact ⟨of_decide_eq_true (List.mem_filter.mp isOther).2,
      Or.inl (of_decide_eq_true (List.mem_filter.mp isOwn).2)⟩

/-- **A sheet is split into the sheets that its columns go to.** -/
theorem splitsInto_split (s : Sheet) : s.SplitsInto s.split where
  named p isPart := by
    obtain ⟨columns, _, same⟩ := exists_group_of_mem_split isPart
    rw [same]
  different := nodup_split s
  columns p isPart := by
    obtain ⟨columns, isGroup, same⟩ := exists_group_of_mem_split isPart
    rw [same]
    exact ((mem_groupBy_iff _).mp isGroup).2
  once := by
    have whole : s.split.flatMap (·.2.columns) = s.columnsBySheet.flatMap Prod.snd := by
      rw [split, List.flatMap_map]
    rw [whole]
    exact ((perm_columnsBySheet s).flatMap_right _).trans (perm_flatMap_groupBy _ _)
  nonempty p isPart := by
    obtain ⟨columns, isGroup, same⟩ := exists_group_of_mem_split isPart
    rw [same]
    exact ne_nil_of_mem_groupBy _ isGroup
  hasHeader p isPart := by
    obtain ⟨columns, _, same⟩ := exists_group_of_mem_split isPart
    rw [same]
  order p isPart := by
    obtain ⟨columns, _, same⟩ := exists_group_of_mem_split isPart
    rw [same]
  inOrder := List.pairwise_map.mpr (pairwise_columnsBySheet s)

end Sheet

end SheetExport
