/-
**What strict merging refuses.**

* `Overlap entries order` — columns of two entries have the order;
* `one_lt_count_orders_iff` — among all columns an order is there twice just when one entry has it
  twice or two entries overlap in it;
* `conflicts_of_strict`: merging several entries strictly is refused for the orders that are there
  twice, and so for those in which entries overlap if no entry has two columns of one order.
-/

import SheetExport.Proofs.Organize.EntryOrder

namespace SheetExport

/-! ### Orders of entries -/

/-- The orders of an entry's columns. -/
def SheetEntry.orders (entry : SheetEntry) : List Int :=
  entry.sheet.columns.map Column.order

/-- Columns of two entries have this order. -/
def Overlap (entries : List SheetEntry) (order : Int) : Prop :=
  ∃ (i j : Nat) (first second : SheetEntry), i < j ∧ entries[i]? = some first ∧
    entries[j]? = some second ∧ order ∈ first.orders ∧ order ∈ second.orders

/-- Two columns of one entry have this order. -/
def Tie (entries : List SheetEntry) (order : Int) : Prop :=
  ∃ entry ∈ entries, 1 < entry.orders.count order

section Orders

variable {entries rest : List SheetEntry} {first : SheetEntry} {order : Int}

theorem map_order_columnsOf (entries : List SheetEntry) :
    (columnsOf entries).map Column.order = entries.flatMap SheetEntry.orders :=
  List.map_flatMap

theorem not_overlap_nil (order : Int) : ¬ Overlap [] order := by
  rintro ⟨i, j, first, second, -, isFirst, -⟩
  cases isFirst

theorem overlap_cons_iff :
    Overlap (first :: rest) order ↔
      (order ∈ first.orders ∧ order ∈ rest.flatMap SheetEntry.orders) ∨ Overlap rest order := by
  constructor
  · rintro ⟨i, j, a, b, before, isA, isB, ofA, ofB⟩
    obtain ⟨j, rfl⟩ := Nat.exists_eq_succ_of_ne_zero (Nat.ne_zero_of_lt before)
    cases i with
    | zero =>
      cases isA
      exact .inl ⟨ofA, List.mem_flatMap.mpr ⟨b, List.mem_of_getElem? isB, ofB⟩⟩
    | succ i => exact .inr ⟨i, j, a, b, Nat.lt_of_succ_lt_succ before, isA, isB, ofA, ofB⟩
  · rintro (⟨ofFirst, ofRest⟩ | ⟨i, j, a, b, before, isA, isB, ofA, ofB⟩)
    · obtain ⟨b, member, ofB⟩ := List.mem_flatMap.mp ofRest
      obtain ⟨j, isB⟩ := List.mem_iff_getElem?.mp member
      exact ⟨0, j + 1, first, b, Nat.succ_pos j, rfl, isB, ofFirst, ofB⟩
    · exact ⟨i + 1, j + 1, a, b, Nat.succ_lt_succ before, isA, isB, ofA, ofB⟩

theorem tie_cons_iff :
    Tie (first :: rest) order ↔ 1 < first.orders.count order ∨ Tie rest order :=
  List.exists_mem_cons_iff _ _ _

/-- **An order is there twice** just when two entries overlap in it or one entry has it twice. -/
theorem one_lt_count_orders_iff :
    1 < (entries.flatMap SheetEntry.orders).count order ↔
      Overlap entries order ∨ Tie entries order := by
  induction entries with
  | nil => simp [not_overlap_nil, Tie]
  | cons first rest ih =>
    rw [List.flatMap_cons, List.count_append, overlap_cons_iff, tie_cons_iff,
      ← List.count_pos_iff, ← List.count_pos_iff]
    have split : 1 < first.orders.count order + (rest.flatMap SheetEntry.orders).count order ↔
        (0 < first.orders.count order ∧ 0 < (rest.flatMap SheetEntry.orders).count order) ∨
          1 < first.orders.count order ∨ 1 < (rest.flatMap SheetEntry.orders).count order := by
      omega
    rw [split, ih, or_assoc, @or_left_comm (Overlap rest order)]

theorem not_tie_of_nodup (apart : ∀ entry ∈ entries, entry.orders.Nodup) : ¬ Tie entries order := by
  rintro ⟨entry, member, twice⟩
  exact Nat.not_lt.mpr (List.nodup_iff_count_le_one.mp (apart entry member) order) twice

end Orders

namespace Workspace

variable {entries : List SheetEntry}

/-- **Merging several entries strictly, with orders that are there twice**: it is refused at once. -/
theorem run_merge_of_shared (several : 2 ≤ entries.length)
    (shared : ¬ ((columnsOf entries).map Column.order).Nodup) (name : String) (order : Option Int)
    (w : Workspace) :
    (merge name order entries true).run.run w =
      (.error (.orderConflict name (sharedOrdersOf (entryColumns entries))
        (entries.map (·.type.title))), w) := by
  have isShared : ¬ (sharedOrdersOf (entryColumns entries)).isEmpty = true := by
    rw [isEmpty_sharedOrdersOf_iff, orders_entryColumns]
    exact shared
  unfold merge
  split
  · cases several
  · exact absurd several (Nat.not_succ_le_self 1)
  · simp only [isShared]
    rfl

/-- Strict merging is refused for a conflict just if some order is such a one, and the message lists
these orders and names the types of all entries. -/
structure ConflictsOn (isConflict : Int → Prop) (name : String) (order : Option Int)
    (entries : List SheetEntry) (w : Workspace) : Prop where
  fails : (∃ sheet orders types w',
    Fails (merge name order entries true) w (.orderConflict sheet orders types) w') ↔
      ∃ o, isConflict o
  lists : ∀ sheet orders types w',
    Fails (merge name order entries true) w (.orderConflict sheet orders types) w' →
      sheet = name ∧ types = entries.map (·.type.title) ∧ w' = w ∧
        ∀ o, o ∈ orders ↔ isConflict o

/-- Strict merging is refused for the orders that are there twice. -/
theorem conflictsOn_twice (several : 2 ≤ entries.length) (name : String) (order : Option Int)
    (w : Workspace) :
    ConflictsOn (fun o => 1 < (entries.flatMap SheetEntry.orders).count o) name order entries w := by
  by_cases apart : ((columnsOf entries).map Column.order).Nodup
  · have run := run_merge_of_apart several apart name order true w
    have notRefused : ∀ sheet orders types w',
        ¬ Fails (merge name order entries true) w (.orderConflict sheet orders types) w' := by
      intro sheet orders types w' fails
      unfold Fails at fails
      rw [run] at fails
      split at fails <;> cases fails
    rw [map_order_columnsOf, List.nodup_iff_count_le_one] at apart
    refine ⟨iff_of_false ?_ ?_, fun sheet orders types w' fails => ?_⟩
    · rintro ⟨sheet, orders, types, w', fails⟩
      exact notRefused sheet orders types w' fails
    · rintro ⟨o, twice⟩
      exact Nat.not_lt.mpr (apart o) twice
    · exact absurd fails (notRefused sheet orders types w')
  · have run := run_merge_of_shared several apart name order w
    rw [map_order_columnsOf, List.nodup_iff_count_le_one, not_forall] at apart
    obtain ⟨o, twice⟩ := apart
    refine ⟨iff_of_true ⟨_, _, _, _, run⟩ ⟨o, Nat.not_le.mp twice⟩,
      fun sheet orders types w' fails => ?_⟩
    cases run.symm.trans fails
    refine ⟨rfl, rfl, rfl, fun o => ?_⟩
    rw [mem_sharedOrdersOf_iff, orders_entryColumns, map_order_columnsOf]

/-- **Strict merging is refused for the orders in which entries overlap and those that one entry has
twice.** Where no entry has an order twice, it is refused just for overlaps, and lists them. -/
theorem conflicts_of_strict (several : 2 ≤ entries.length) (name : String) (order : Option Int)
    (w : Workspace) :
    ConflictsOn (fun o => Overlap entries o ∨ Tie entries o) name order entries w ∧
      ((∀ entry ∈ entries, entry.orders.Nodup) →
        ConflictsOn (Overlap entries) name order entries w) := by
  have conflicts := conflictsOn_twice several name order w
  simp only [one_lt_count_orders_iff] at conflicts
  refine ⟨conflicts, fun apart => ?_⟩
  have onlyOverlaps : ∀ o, ¬ Tie entries o := fun _ => not_tie_of_nodup apart
  simpa only [onlyOverlaps, or_false] using conflicts

/-- Two entries that overlap in one order, and have others of their own. -/
def overlappingEntries : List SheetEntry :=
  [⟨1, sampleType, ⟨"both", [sampleColumn "a" 1, sampleColumn "b" 2], true, none⟩⟩,
    ⟨2, sampleType, ⟨"both", [sampleColumn "c" 2, sampleColumn "d" 3], true, none⟩⟩]

theorem conflicts_of_strict_sample :
    2 ≤ overlappingEntries.length ∧
      ConflictsOn (Overlap overlappingEntries) "both" none overlappingEntries sampleCopied ∧
      ∃ orders types w', Fails (merge "both" none overlappingEntries true) sampleCopied
        (.orderConflict "both" orders types) w' ∧ 2 ∈ orders := by
  have conflicts := (conflicts_of_strict (by decide) "both" none sampleCopied).2
    (show ∀ entry ∈ overlappingEntries, entry.orders.Nodup by decide)
  have overlap : Overlap overlappingEntries 2 :=
    ⟨0, 1, _, _, Nat.zero_lt_one, rfl, rfl, by decide, by decide⟩
  obtain ⟨sheet, orders, types, w', fails⟩ := conflicts.fails.mpr ⟨2, overlap⟩
  obtain ⟨rfl, -, -, listed⟩ := conflicts.lists _ _ _ _ fails
  exact ⟨by decide, conflicts, orders, types, w', fails, (listed 2).mpr overlap⟩

/-- An entry with one declared order, and one with two columns whose orders are not declared. -/
def tiedEntries : List SheetEntry :=
  [⟨1, sampleType, sampleSheet "both" "a" 1⟩,
    ⟨2, sampleType, ⟨"both", [sampleColumn "b" unsetOrder, sampleColumn "c" unsetOrder], true, none⟩⟩]

/-- A tie within one entry is refused and listed, though the entries do not overlap. -/
theorem exists_conflict_without_overlap :
    2 ≤ tiedEntries.length ∧
      Fails (merge "both" none tiedEntries true) sampleCopied
        (.orderConflict "both" [unsetOrder] ["Reading", "Reading"]) sampleCopied ∧
      ∀ order, ¬ Overlap tiedEntries order := by
  refine ⟨by decide, by cbv, ?_⟩
  intro order overlap
  rcases overlap_cons_iff.mp overlap with ⟨ofFirst, ofSecond⟩ | alone
  · cases List.mem_singleton.mp ofFirst
    exact absurd ofSecond (by decide)
  · rcases overlap_cons_iff.mp alone with ⟨-, ofNone⟩ | none
    · cases ofNone
    · exact not_overlap_nil order none

end Workspace

end SheetExport
