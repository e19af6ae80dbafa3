/-
**The cells of a header cover each of its rows once.**

* `Tiles first runs beyond` — runs that follow on each other from one position up to another;
* `tiles_labelRuns` — the runs of labels tile the positions of the labels;
* `HeaderPlan.rowCells plan row` — the cells that have a part in a row, from left to right;
* `covers_rowCells`: in each row of a header they cover every column once, in order.
-/

import SheetExport.Sheet.Header

namespace SheetExport

/-! ### Runs -/

/-- Runs that follow on each other; one without label is a single position. -/
inductive Tiles : Nat → List LabelRun → Nat → Prop
  | nil (position : Nat) : Tiles position [] position
  | cons {run : LabelRun} {runs : List LabelRun} {beyond : Nat} (forward : run.first ≤ run.last)
      (single : run.label = "" → run.first = run.last) (rest : Tiles (run.last + 1) runs beyond) :
      Tiles run.first (run :: runs) beyond

theorem tiles_labelRunsFrom (position : Nat) (labels : List String) :
    Tiles position (labelRunsFrom position labels) (position + labels.length) := by
  induction labels generalizing position with
  | nil => exact .nil position
  | cons label rest ih =>
    have tail := ih (position + 1)
    have total : position + 1 + rest.length = position + (label :: rest).length := by
      rw [List.length_cons]
      omega
    rw [total] at tail
    have alone : ∀ runs, Tiles (position + 1) runs (position + (label :: rest).length) →
        Tiles position (⟨position, position, label⟩ :: runs) (position + (label :: rest).length) :=
      fun runs tiles => @Tiles.cons ⟨position, position, label⟩ _ _ (Nat.le_refl _)
        (fun _ => rfl) tiles
    rw [labelRunsFrom]
    split
    · rename_i run more same
      rw [same] at tail
      split
      · -- The label goes on in the run behind it.
        rename_i joined
        generalize start : position + 1 = next at tail
        cases tail with
        | cons forward single tiles =>
          refine @Tiles.cons ⟨position, run.last, label⟩ _ _ ?_ ?_ tiles
          · show position ≤ run.last
            omega
          · exact fun empty => absurd empty joined.1
      · exact alone _ tail
    · rename_i same
      rw [same] at tail
      exact alone _ tail

/-- **The runs of labels tile their positions.** -/
theorem tiles_labelRuns (labels : List String) : Tiles 0 (labelRuns labels) labels.length := by
  have tiles := tiles_labelRunsFrom 0 labels
  rwa [Nat.zero_add] at tiles

theorem Tiles.forward {first beyond : Nat} {runs : List LabelRun}
    (tiles : Tiles first runs beyond) {run : LabelRun} (member : run ∈ runs) :
    run.first ≤ run.last := by
  induction tiles with
  | nil position => cases member
  | cons forward _ _ ih =>
    rcases List.mem_cons.mp member with rfl | later
    · exact forward
    · exact ih later

theorem Tiles.le {first beyond : Nat} {runs : List LabelRun} (tiles : Tiles first runs beyond) :
    first ≤ beyond := by
  induction tiles with
  | nil position => exact Nat.le_refl _
  | cons forward single rest ih => omega

/-! ### Cells of a row -/

/-- The cell has a part in the row. -/
def HeaderCell.inRow (row : Nat) (c : HeaderCell) : Bool := c.firstRow ≤ row && row ≤ c.lastRow

/-- The columns that a cell covers. -/
def HeaderCell.span (c : HeaderCell) : List Nat :=
  List.range' c.firstColumn (c.lastColumn + 1 - c.firstColumn)

/-- The cells with a part in a row, from left to right. -/
def HeaderPlan.rowCells (plan : HeaderPlan) (row : Nat) : List HeaderCell :=
  (plan.cells.filter (HeaderCell.inRow row)).mergeSort
    fun a b => decide (a.firstColumn ≤ b.firstColumn)

section Columns

variable {columns : List Column} {row : Nat}

theorem map_fst_numbered (columns : List Column) :
    ((List.range columns.length).zip columns).map Prod.fst = List.range' 0 columns.length := by
  rw [List.map_fst_zip (by simp), List.range_eq_range']

/-- Cells of single columns cover these columns. -/
theorem flatMap_span_columnCell (firstRow lastRow : Nat) (positions : List (Nat × Column)) :
    (positions.map (columnCell firstRow lastRow)).flatMap HeaderCell.span =
      positions.map Prod.fst := by
  induction positions with
  | nil => rfl
  | cons p positions ih =>
    rw [List.map_cons, List.flatMap_cons, ih, List.map_cons]
    simp [HeaderCell.span, columnCell]

theorem filter_columnCell (firstRow lastRow : Nat) (positions : List (Nat × Column)) :
    (positions.map (columnCell firstRow lastRow)).filter (HeaderCell.inRow row) =
      if firstRow ≤ row ∧ row ≤ lastRow then positions.map (columnCell firstRow lastRow)
      else [] := by
  split
  · rename_i inside
    refine List.filter_eq_self.mpr fun c member => ?_
    obtain ⟨p, _, rfl⟩ := List.mem_map.mp member
    exact Bool.and_eq_true_iff.mpr ⟨decide_eq_true inside.1, decide_eq_true inside.2⟩
  · rename_i outside
    refine List.filter_eq_nil_iff.mpr fun c member => ?_
    obtain ⟨p, _, rfl⟩ := List.mem_map.mp member
    intro holds
    obtain ⟨above, below⟩ := Bool.and_eq_true_iff.mp holds
    exact outside ⟨of_decide_eq_true above, of_decide_eq_true below⟩

/-- In each of the two rows, the cells of a run cover the run. -/
theorem covers_runCells {run : LabelRun} (forward : run.first ≤ run.last)
    (inside : run.last < columns.length) (isRow : row < 2) :
    ((runCells ((List.range columns.length).zip columns) run).filter
      (HeaderCell.inRow row)).flatMap HeaderCell.span =
      List.range' run.first (run.last + 1 - run.first) := by
  have members : ((((List.range columns.length).zip columns).drop run.first).take
      (run.last + 1 - run.first)).map Prod.fst =
      List.range' run.first (run.last + 1 - run.first) := by
    have enough : run.last + 1 - run.first ≤ columns.length - run.first := by omega
    rw [List.map_take, List.map_drop, map_fst_numbered, List.drop_range',
      List.take_range'_of_length_ge enough, Nat.zero_add, Nat.mul_one]
  rw [runCells]
  generalize ((((List.range columns.length).zip columns).drop run.first).take
    (run.last + 1 - run.first)) = positions at members ⊢
  split
  · rw [filter_columnCell, if_pos (by omega), flatMap_span_columnCell, members]
  · split
    · exact absurd (congrArg List.length members) (by simp; omega)
    · rename_i p c rest
      by_cases top : row = 0
      · subst top
        rw [List.filter_cons_of_pos (by rfl), filter_columnCell, if_neg (by omega),
          List.flatMap_cons, List.flatMap_nil, List.append_nil]
        rfl
      · have second : row = 1 := by omega
        subst second
        rw [List.filter_cons_of_neg (by simp [HeaderCell.inRow]), filter_columnCell,
          if_pos (by omega), flatMap_span_columnCell, members]

theorem covers_runs {first beyond : Nat} {runs : List LabelRun} (tiles : Tiles first runs beyond)
    (inside : beyond ≤ columns.length) (isRow : row < 2) :
    ((runs.flatMap (runCells ((List.range columns.length).zip columns))).filter
      (HeaderCell.inRow row)).flatMap HeaderCell.span = List.range' first (beyond - first) := by
  induction tiles with
  | nil position => simp
  | @cons run runs beyond forward single rest ih =>
    have le := rest.le
    rw [List.flatMap_cons, List.filter_append, List.flatMap_append, ih inside,
      covers_runCells forward (by omega) isRow]
    have joined := List.range'_append_1 (s := run.first) (m := run.last + 1 - run.first)
      (n := beyond - (run.last + 1))
    have next : run.first + (run.last + 1 - run.first) = run.last + 1 := by omega
    have total : run.last + 1 - run.first + (beyond - (run.last + 1)) = beyond - run.first := by
      omega
    rwa [next, total] at joined

/-- The cells of a row, in the order of the plan, cover the columns. -/
theorem covers_filter (isRow : row < (planHeader columns).rows) :
    ((planHeader columns).cells.filter (HeaderCell.inRow row)).flatMap HeaderCell.span =
      List.range columns.length := by
  unfold planHeader at isRow ⊢
  simp only at isRow ⊢
  split at isRow <;> rename_i labelled
  · rw [if_pos labelled]
    have inside : (columns.map Column.mergeHeader).length ≤ columns.length := by simp
    have covered := covers_runs (tiles_labelRuns (columns.map Column.mergeHeader)) inside isRow
    rw [covered, List.length_map, Nat.sub_zero, List.range_eq_range']
  · rw [if_neg labelled]
    have onlyRow : row = 0 := by
      simp only at isRow
      omega
    subst onlyRow
    simp only
    rw [filter_columnCell, if_pos (by omega), flatMap_span_columnCell, map_fst_numbered,
      List.range_eq_range']

/-- What covers its own beginning, in a row of beginnings. -/
theorem sublist_flatMap {α β : Type} {begin : α → β} {cover : α → List β} {items : List α}
    (begins : ∀ a ∈ items, ∃ rest, cover a = begin a :: rest) :
    (items.map begin).Sublist (items.flatMap cover) := by
  induction items with
  | nil => exact .refl _
  | cons a items ih =>
    obtain ⟨rest, starts⟩ := begins a List.mem_cons_self
    rw [List.map_cons, List.flatMap_cons, starts, List.cons_append]
    exact .cons_cons _ ((ih fun b member => begins b (List.mem_cons_of_mem _ member)).trans
      (List.sublist_append_right _ _))

/-- No cell of a header ends before it begins. -/
theorem forward_of_mem {c : HeaderCell} (member : c ∈ (planHeader columns).cells) :
    c.firstColumn ≤ c.lastColumn := by
  have single : ∀ firstRow lastRow (positions : List (Nat × Column)),
      c ∈ positions.map (columnCell firstRow lastRow) → c.firstColumn ≤ c.lastColumn := by
    intro firstRow lastRow positions inCells
    obtain ⟨p, _, rfl⟩ := List.mem_map.mp inCells
    exact Nat.le_refl _
  unfold planHeader at member
  simp only at member
  split at member
  · obtain ⟨run, isRun, inRun⟩ := List.mem_flatMap.mp member
    have forward := (tiles_labelRuns _).forward isRun
    unfold runCells at inRun
    simp only at inRun
    split at inRun
    · exact single _ _ _ inRun
    · split at inRun
      · cases inRun
      · rcases List.mem_cons.mp inRun with rfl | below
        · exact forward
        · exact single _ _ _ below
  · exact single _ _ _ member

/-- The cells of a row stand in the plan from left to right already. -/
theorem rowCells_eq_filter (isRow : row < (planHeader columns).rows) :
    (planHeader columns).rowCells row =
      (planHeader columns).cells.filter (HeaderCell.inRow row) := by
  have begins : ∀ c ∈ (planHeader columns).cells.filter (HeaderCell.inRow row),
      ∃ rest, c.span = c.firstColumn :: rest := by
    intro c member
    have forward := forward_of_mem (List.mem_filter.mp member).1
    have count : c.lastColumn + 1 - c.firstColumn = c.lastColumn - c.firstColumn + 1 := by omega
    exact ⟨_, by rw [HeaderCell.span, count, List.range'_succ]⟩
  have ascending := sublist_flatMap begins
  rw [covers_filter isRow] at ascending
  have sorted := List.pairwise_map.mp (List.Pairwise.sublist ascending List.pairwise_lt_range)
  exact List.mergeSort_of_pairwise (sorted.imp fun before => decide_eq_true (Nat.le_of_lt before))

/-- **The cells of a row cover every column once, in order.** -/
theorem covers_rowCells (isRow : row < (planHeader columns).rows) :
    ((planHeader columns).rowCells row).flatMap HeaderCell.span = List.range columns.length := by
  rw [rowCells_eq_filter isRow, covers_filter isRow]

end Columns

end SheetExport
