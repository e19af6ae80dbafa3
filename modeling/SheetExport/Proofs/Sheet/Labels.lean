/-
**Labels over columns: what the check of them is good for.**

* `contiguous_of_checkMergeHeaders` — columns in ascending order whose labels pass the check have
  each label on adjacent columns;
* `LabelledOnce columns`, `LabelledOnceWithin before block after` — the header has one label cell
  for each label, over just the columns that declare it; in a block of columns with others beside
  it, one label cell for each label has a part there, and this part is just those columns;
* `labelledOnceWithin`, `labelledOnce`: this is so where the labels are contiguous.
-/

import SheetExport.Proofs.Sheet.LabelRuns
import SheetExport.Proofs.Sheet.LabelSpans

namespace SheetExport

/-! ### The check of labels -/

theorem getElem?_labelsOf {columns : List Column} {i : Nat} {label : String} :
    (labelsOf columns)[i]? = some label ↔
      ∃ c, columns[i]? = some c ∧ c.mergeHeader = label := by
  rw [labelsOf, List.getElem?_map, Option.map_eq_some_iff]

variable {columns : List Column} {label : String}

/-- Two positions of a label are two columns that declare it. -/
theorem two_le_length_membersOf {i k : Nat} (before : i < k) {a b : Column}
    (here : columns[i]? = some a) (there : columns[k]? = some b) (isLabel : a.mergeHeader = label)
    (isLabel' : b.mergeHeader = label) : 2 ≤ (membersOf columns label).length := by
  have first : a ∈ columns.take k := by
    refine List.mem_of_getElem? (i := i) ?_
    rw [List.getElem?_take_of_lt before, here]
  have second : b ∈ columns.drop k := by
    refine List.mem_of_getElem? (i := 0) ?_
    rw [List.getElem?_drop, Nat.add_zero, there]
  have left : a ∈ membersOf (columns.take k) label :=
    List.mem_filter.mpr ⟨first, decide_eq_true isLabel⟩
  have right : b ∈ membersOf (columns.drop k) label :=
    List.mem_filter.mpr ⟨second, decide_eq_true isLabel'⟩
  have apart : membersOf columns label =
      membersOf (columns.take k) label ++ membersOf (columns.drop k) label := by
    rw [membersOf, membersOf, membersOf, ← List.filter_append, List.take_append_drop]
  have := List.length_pos_of_mem left
  have := List.length_pos_of_mem right
  rw [apart, List.length_append]
  omega

/-- **Labels that pass the check are contiguous** over columns in ascending order. -/
theorem contiguous_of_checkMergeHeaders (sorted : columns.Pairwise (·.order ≤ ·.order))
    (checked : checkMergeHeaders columns = .ok ()) : Contiguous (labelsOf columns) := by
  intro label labelled i j k ij jk here there
  obtain ⟨a, isFirst, isLabel⟩ := getElem?_labelsOf.mp here
  obtain ⟨b, isLast, isLabel'⟩ := getElem?_labelsOf.mp there
  obtain ⟨inside, rfl⟩ := List.getElem?_eq_some_iff.mp isLast
  have between : j < columns.length := Nat.lt_trans jk inside
  obtain ⟨before, rfl⟩ := List.getElem?_eq_some_iff.mp isFirst
  have ordered := List.pairwise_iff_getElem.mp sorted
  refine getElem?_labelsOf.mpr ⟨columns[j], List.getElem?_eq_getElem between, ?_⟩
  have several := two_le_length_membersOf (Nat.lt_trans ij jk) isFirst isLast isLabel isLabel'
  have fits := fits_of_checkMergeHeaders checked labelled several
  exact fits.mergeHeader_eq
    (List.mem_filter.mpr ⟨List.getElem_mem before, decide_eq_true isLabel⟩)
    (List.mem_filter.mpr ⟨List.getElem_mem inside, decide_eq_true isLabel'⟩)
    (List.getElem_mem between) (ordered i j before between ij) (ordered j k between inside jk)

/-! ### Label cells -/

namespace HeaderPlan

/-- The cells that stand above other cells of the header. -/
def labelCells (plan : HeaderPlan) : List HeaderCell :=
  plan.cells.filter fun c => c.lastRow + 1 < plan.rows

end HeaderPlan

/-- A cell as the run of a label. -/
def HeaderCell.run (c : HeaderCell) : LabelRun := ⟨c.firstColumn, c.lastColumn, c.text⟩

theorem labelCells_of_runCells {numbered : List (Nat × Column)} {run : LabelRun}
    (forward : run.first ≤ run.last) (inside : run.last < numbered.length) :
    ((runCells numbered run).filter fun c => c.lastRow + 1 < 2).map HeaderCell.run =
      [run].filter (·.label ≠ "") := by
  have below : ∀ firstRow (positions : List (Nat × Column)),
      (positions.map (columnCell firstRow 1)).filter (fun c => c.lastRow + 1 < 2) = [] := by
    intro firstRow positions
    rw [List.filter_map]
    simp [columnCell]
  rw [runCells]
  split
  · rename_i unlabelled
    rw [below, List.filter_cons_of_neg (by simp [unlabelled])]
    rfl
  · rename_i labelled
    rw [List.filter_cons_of_pos (by simp [labelled])]
    split
    · rename_i none
      have := congrArg List.length none
      simp at this
      omega
    · rw [List.filter_cons_of_pos (by rfl), below]
      rfl

/-- **The label cells of a header are the runs with a label.** -/
theorem map_run_labelCells (columns : List Column) :
    (planHeader columns).labelCells.map HeaderCell.run =
      (labelRuns (labelsOf columns)).filter (·.label ≠ "") := by
  have tiles := tiles_labelRuns (labelsOf columns)
  have wide : (labelsOf columns).length = columns.length := List.length_map _
  unfold HeaderPlan.labelCells planHeader
  dsimp only
  split
  · dsimp only
    have single : (labelRuns (labelsOf columns)).filter (·.label ≠ "") =
        (labelRuns (labelsOf columns)).flatMap fun run => [run].filter (·.label ≠ "") := by
      rw [← List.filter_flatMap, List.flatMap_singleton']
    rw [single, List.filter_flatMap, List.map_flatMap]
    refine List.flatMap_congr fun run isRun => labelCells_of_runCells (tiles.forward isRun) ?_
    have inside := tiles.last_lt isRun
    simpa [wide] using inside
  · rename_i unlabelled
    rw [List.filter_eq_nil_iff.mpr (by simp), List.filter_eq_nil_iff.mpr]
    · rfl
    · -- A run with a label would be one of a column that declares it.
      intro run isRun labelled
      have labelHere := labelled_of_mem_labelRuns isRun ⟨Nat.le_refl _, tiles.forward isRun⟩
      obtain ⟨c, isColumn, sameLabel⟩ := getElem?_labelsOf.mp labelHere
      refine unlabelled (List.any_eq_true.mpr ⟨c, List.mem_of_getElem? isColumn, ?_⟩)
      rwa [sameLabel]

/-- One label cell of a header has the label, and it is over just the columns that declare it. -/
def LabelledOnce (columns : List Column) : Prop :=
  ∀ label ∈ labelsOf columns, label ≠ "" → ∃ cell,
    (planHeader columns).labelCells.filter (·.text = label) = [cell] ∧
      ∀ i, i ∈ cell.span ↔ (labelsOf columns)[i]? = some label

/-- A run has some of `count` positions from `start` on. -/
def LabelRun.meets (start count : Nat) (run : LabelRun) : Bool :=
  (List.range count).any fun i => run.first ≤ start + i && start + i ≤ run.last

/-- One label cell of a header has the label and is over columns of the block; of these, it is over
just those that declare the label. -/
def LabelledOnceWithin (before block after : List Column) : Prop :=
  ∀ label ∈ labelsOf block, label ≠ "" → ∃ cell,
    (planHeader (before ++ block ++ after)).labelCells.filter
        (fun c => c.text = label && c.run.meets before.length block.length) = [cell] ∧
      ∀ i < block.length, before.length + i ∈ cell.span ↔ (labelsOf block)[i]? = some label

theorem mem_span {c : HeaderCell} {i : Nat} : i ∈ c.span ↔ c.run.Has i := by
  rw [HeaderCell.span, List.mem_range'_1]
  unfold LabelRun.Has HeaderCell.run
  dsimp only
  omega

theorem meets_iff {run : LabelRun} {start count : Nat} :
    run.meets start count = true ↔ ∃ i < count, run.Has (start + i) := by
  simp [LabelRun.meets, LabelRun.Has]

/-- The only element of a list of which something holds. -/
theorem filter_eq_singleton {α : Type} {as : List α} (distinct : as.Nodup) {p : α → Bool} {a : α}
    (member : a ∈ as) (holds : p a = true) (only : ∀ b ∈ as, p b = true → b = a) :
    as.filter p = [a] := by
  refine List.perm_singleton.mp ((List.perm_ext_iff_of_nodup (distinct.filter p)
    (List.nodup_singleton a)).mpr fun b => ?_)
  rw [List.mem_filter, List.mem_singleton]
  constructor
  · rintro ⟨inList, isOne⟩
    exact only b inList isOne
  · rintro rfl
    exact ⟨member, holds⟩

theorem nodup_labelRuns (labels : List String) : (labelRuns labels).Nodup := by
  refine List.Pairwise.imp_of_mem ?_ (pairwise_labelRuns labels)
  rintro a b isRun _ before rfl
  have forward := (tiles_labelRuns labels).forward isRun
  omega

/-- **In a block with contiguous labels, each label has one label cell.** -/
theorem labelledOnceWithin (before after : List Column) {block : List Column}
    (contiguous : Contiguous (labelsOf block)) : LabelledOnceWithin before block after := by
  intro label member labelled
  have labels : labelsOf (before ++ block ++ after) =
      labelsOf before ++ labelsOf block ++ labelsOf after := by
    rw [labelsOf, List.map_append, List.map_append]
    rfl
  have wide : ∀ columns : List Column, (labelsOf columns).length = columns.length :=
    fun columns => List.length_map _
  obtain ⟨run, isRun, sameLabel, positions, unique⟩ := @exists_run_of_contiguous
    (labelsOf before) (labelsOf block) (labelsOf after) label contiguous labelled member
  rw [← labels] at isRun unique
  rw [wide, wide] at positions unique
  let isOne := fun run : LabelRun => run.label = label && run.meets before.length block.length
  have cells : ((planHeader (before ++ block ++ after)).labelCells.filter
      (isOne ∘ HeaderCell.run)).map HeaderCell.run = [run] := by
    rw [← List.filter_map, map_run_labelCells, List.filter_filter]
    refine filter_eq_singleton (nodup_labelRuns _) isRun ?_ fun other isOther holds => ?_
    · obtain ⟨i, below, here⟩ := List.mem_iff_getElem.mp member
      rw [wide] at below
      have has := (positions i below).mp (List.getElem?_eq_some_iff.mpr ⟨_, here⟩)
      simp [isOne, sameLabel, labelled, meets_iff.mpr ⟨i, below, has⟩]
    · simp only [isOne, Bool.and_eq_true, decide_eq_true_eq] at holds
      exact unique other isOther holds.1.1 (meets_iff.mp holds.1.2)
  obtain ⟨cell, single, rfl⟩ := List.map_eq_singleton_iff.mp cells
  refine ⟨cell, single, fun i inBlock => ?_⟩
  rw [mem_span, positions i inBlock]

/-- A label cell is a run of the labels. -/
theorem run_mem_labelRuns {columns : List Column} {cell : HeaderCell}
    (member : cell ∈ (planHeader columns).labelCells) :
    cell.run ∈ labelRuns (labelsOf columns) := by
  have inRuns := List.mem_map_of_mem (f := HeaderCell.run) member
  rw [map_run_labelCells] at inRuns
  exact (List.mem_filter.mp inRuns).1

/-- **Contiguous labels have one label cell each**, over the columns that declare them. -/
theorem labelledOnce (contiguous : Contiguous (labelsOf columns)) : LabelledOnce columns := by
  intro label member labelled
  obtain ⟨cell, single, covers⟩ := labelledOnceWithin [] [] contiguous label member labelled
  rw [List.nil_append, List.append_nil] at single
  have tiles := tiles_labelRuns (labelsOf columns)
  have wide : (labelsOf columns).length = columns.length := List.length_map _
  refine ⟨cell, ?_, fun i => ?_⟩
  · rw [← single]
    refine List.filter_congr fun other isOther => ?_
    -- Every label cell is over some column.
    have isRun := run_mem_labelRuns isOther
    have inside := tiles.last_lt isRun
    have forward := tiles.forward isRun
    have meets : other.run.meets 0 columns.length = true :=
      meets_iff.mpr ⟨other.run.first, by omega, by simp [LabelRun.Has, forward]⟩
    simp [meets]
  · by_cases inside : i < columns.length
    · rw [← covers i inside]
      simp
    · have isCell : cell ∈ (planHeader columns).labelCells :=
        (List.mem_filter.mp (single ▸ List.mem_cons_self)).1
      have last := tiles.last_lt (run_mem_labelRuns isCell)
      rw [mem_span, List.getElem?_eq_none (by omega)]
      simp only [LabelRun.Has, reduceCtorEq, iff_false]
      omega

end SheetExport
