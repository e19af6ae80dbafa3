/-
**A header as a grid.**

* `HeaderPlan.TilesGrid plan width` — the cells of a plan stay in its rows and in so many columns,
  and each position there is covered by one of them alone;
* `HeaderCell.Heads c plan i column` — a cell is over column `i` alone and shows what the column
  declares; it reaches from the top to the foot where other columns only have a label;
* `LabelBlock labels run` — adjacent positions that share a label, with no further one beside them;
* `mem_cells_planHeader`: a cell of a header is that of a column or that of a run of labels;
* `planHeader_grid`: whether or not its labels are contiguous, a header tiles its grid, each column
  has its cell at the foot and each block of a label its cell at the top, and the borders are drawn
  around what spans both rows.
-/

import SheetExport.Proofs.Sheet.Labels

namespace SheetExport

/-! ### Positions of a grid -/

/-- The cell covers the position. -/
def HeaderCell.covers (row column : Nat) (c : HeaderCell) : Bool :=
  c.inRow row && decide (column ∈ c.span)

/-- The cells stay in the rows of the plan and in `width` columns, and every position there is
covered by one cell alone. -/
structure HeaderPlan.TilesGrid (plan : HeaderPlan) (width : Nat) : Prop where
  rows : ∀ c ∈ plan.cells, c.firstRow ≤ c.lastRow ∧ c.lastRow < plan.rows
  columns : ∀ c ∈ plan.cells, c.firstColumn ≤ c.lastColumn ∧ c.lastColumn < width
  once : ∀ row < plan.rows, ∀ column < width,
    ∃ c, plan.cells.filter (HeaderCell.covers row column) = [c]

/-- The cell covers both rows of a header that has two. -/
def HeaderCell.SpansBoth (c : HeaderCell) : Prop := c.firstRow = 0 ∧ c.lastRow = 1

/-- The cell is over column `i` alone and has the column's header; it covers both rows just where
the column has no label and others have one. -/
structure HeaderCell.Heads (c : HeaderCell) (plan : HeaderPlan) (i : Nat) (column : Column) :
    Prop where
  single : c.firstColumn = i ∧ c.lastColumn = i
  shows : c.text = column.header ∧ c.style = column.headerStyle
  tall : c.SpansBoth ↔ plan.rows = 2 ∧ column.mergeHeader = ""

/-- Adjacent positions that share a label, which no position beside them has. -/
structure LabelBlock (labels : List String) (run : LabelRun) : Prop where
  labelled : run.label ≠ ""
  forward : run.first ≤ run.last
  shared : ∀ i, run.Has i → labels[i]? = some run.label
  before : ∀ i, i + 1 = run.first → labels[i]? ≠ some run.label
  behind : labels[run.last + 1]? ≠ some run.label

/-- The border that a row has in a box around the rows of a cell. -/
def HeaderCell.boxBorder (c : HeaderCell) (row : Nat) : Border :=
  ⟨if row = c.firstRow then 1 else 0, if row = c.lastRow then 1 else 0, 1, 1⟩

/-- Where covers follow on each other without repetition, whatever is covered is so by one item
alone. -/
theorem exists_filter_eq_singleton {α β : Type} [DecidableEq β] {cover : α → List β}
    {items : List α} (distinct : (items.flatMap cover).Nodup) {b : β}
    (member : b ∈ items.flatMap cover) :
    ∃ a, items.filter (fun a => decide (b ∈ cover a)) = [a] := by
  induction items with
  | nil => cases member
  | cons a items ih =>
    rw [List.flatMap_cons] at distinct member
    obtain ⟨_, others, apart⟩ := List.nodup_append.mp distinct
    by_cases here : b ∈ cover a
    · have notLater : items.filter (fun a => decide (b ∈ cover a)) = [] := by
        refine List.filter_eq_nil_iff.mpr fun other isOther covered => ?_
        have later := List.mem_flatMap.mpr ⟨other, isOther, of_decide_eq_true covered⟩
        exact apart b here b later rfl
      exact ⟨a, by rw [List.filter_cons_of_pos (by simpa using here), notLater]⟩
    · rw [List.filter_cons_of_neg (by simpa using here)]
      exact ih others ((List.mem_append.mp member).resolve_left here)

/-! ### The cells of a header -/

section Cells

variable {columns : List Column} {c : HeaderCell} {row i : Nat}

theorem covers_iff : c.covers row i = true ↔
    (c.firstRow ≤ row ∧ row ≤ c.lastRow) ∧ c.run.Has i := by
  rw [HeaderCell.covers, HeaderCell.inRow, Bool.and_eq_true, Bool.and_eq_true, decide_eq_true_eq,
    decide_eq_true_eq, decide_eq_true_eq, mem_span]

theorem length_labelsOf (columns : List Column) : (labelsOf columns).length = columns.length :=
  List.length_map _

/-- The rows of a header: two if a column has a label, else one. -/
theorem rows_planHeader (columns : List Column) :
    (planHeader columns).rows = if ∃ c ∈ columns, c.mergeHeader ≠ "" then 2 else 1 := by
  have labelled : (columns.any (·.mergeHeader ≠ "") = true) =
      ∃ c ∈ columns, c.mergeHeader ≠ "" := by
    simp
  unfold planHeader
  simp only [labelled]
  split <;> rfl

/-- A member of a run has its position in the run, and is the column there. -/
theorem of_mem_members {first count : Nat} {position : Nat × Column}
    (member : position ∈ (((List.range columns.length).zip columns).drop first).take count) :
    first ≤ position.1 ∧ position.1 < first + count ∧
      columns[position.1]? = some position.2 := by
  obtain ⟨j, found⟩ := List.mem_iff_getElem?.mp member
  rw [List.getElem?_take] at found
  split at found
  · rename_i below
    rw [List.getElem?_drop] at found
    obtain ⟨isPosition, isColumn⟩ := List.getElem?_zip_eq_some.mp found
    obtain ⟨inside, same⟩ := List.getElem?_eq_some_iff.mp isPosition
    rw [List.getElem_range] at same
    rw [← same]
    exact ⟨Nat.le_add_right _ _, Nat.add_lt_add_left below _, isColumn⟩
  · cases found

/-- The cell of a column at the foot of a header, up to the top if no label is above it. -/
def footCell (columns : List Column) (i : Nat) (column : Column) : HeaderCell :=
  columnCell (if column.mergeHeader = "" then 0 else (planHeader columns).rows - 1)
    ((planHeader columns).rows - 1) (i, column)

/-- **A cell of a header** is that of a column at the foot, or that of a run of labels above. -/
theorem mem_cells_planHeader (member : c ∈ (planHeader columns).cells) :
    (∃ i column, columns[i]? = some column ∧ c = footCell columns i column) ∨
      (planHeader columns).rows = 2 ∧ c.firstRow = 0 ∧ c.lastRow = 0 ∧
        c.run ∈ labelRuns (labelsOf columns) := by
  unfold footCell
  rw [rows_planHeader]
  unfold planHeader at member
  dsimp only at member
  split at member
  · rename_i labelled
    rw [if_pos (by simpa using labelled)]
    obtain ⟨run, isRun, inRun⟩ := List.mem_flatMap.mp member
    have labelAt : ∀ {i column}, run.Has i → columns[i]? = some column →
        column.mergeHeader = run.label := by
      intro i column has isColumn
      have labelHere := labelled_of_mem_labelRuns isRun has
      obtain ⟨other, isOther, same⟩ := getElem?_labelsOf.mp labelHere
      cases isColumn.symm.trans isOther
      exact same
    have forward := (tiles_labelRuns _).forward isRun
    unfold runCells at inRun
    dsimp only at inRun
    split at inRun
    · rename_i unlabelled
      obtain ⟨position, isMember, rfl⟩ := List.mem_map.mp inRun
      obtain ⟨least, below, isColumn⟩ := of_mem_members isMember
      have label := labelAt ⟨least, by omega⟩ isColumn
      refine Or.inl ⟨position.1, position.2, isColumn, ?_⟩
      rw [if_pos (label.trans unlabelled)]
    · rename_i isLabel
      split at inRun
      · cases inRun
      · rcases List.mem_cons.mp inRun with rfl | atFoot
        · exact Or.inr ⟨rfl, rfl, rfl, isRun⟩
        · obtain ⟨position, isMember, rfl⟩ := List.mem_map.mp atFoot
          obtain ⟨least, below, isColumn⟩ := of_mem_members isMember
          have label := labelAt ⟨least, by omega⟩ isColumn
          refine Or.inl ⟨position.1, position.2, isColumn, ?_⟩
          rw [if_neg (by rw [label]; exact isLabel)]
  · rename_i unlabelled
    rw [if_neg (by simpa using unlabelled)]
    obtain ⟨position, isMember, rfl⟩ := List.mem_map.mp member
    obtain ⟨_, _, isColumn⟩ := @of_mem_members columns 0 columns.length position (by
      rwa [List.drop_zero, List.take_of_length_le (by simp)])
    refine Or.inl ⟨position.1, position.2, isColumn, ?_⟩
    rw [Nat.sub_self, ite_self]

theorem one_le_rows_planHeader (columns : List Column) : 1 ≤ (planHeader columns).rows := by
  rw [rows_planHeader]
  split <;> omega

theorem rows_of_mem_cells (member : c ∈ (planHeader columns).cells) :
    c.firstRow ≤ c.lastRow ∧ c.lastRow < (planHeader columns).rows := by
  have rows := one_le_rows_planHeader columns
  rcases mem_cells_planHeader member with ⟨i, column, _, rfl⟩ | ⟨two, top, top', _⟩
  · dsimp only [footCell, columnCell]
    split <;> omega
  · omega

theorem columns_of_mem_cells (member : c ∈ (planHeader columns).cells) :
    c.firstColumn ≤ c.lastColumn ∧ c.lastColumn < columns.length := by
  refine ⟨forward_of_mem member, ?_⟩
  rcases mem_cells_planHeader member with ⟨i, column, isColumn, rfl⟩ | ⟨_, _, _, isRun⟩
  · exact (List.getElem?_eq_some_iff.mp isColumn).1
  · have inside := (tiles_labelRuns _).last_lt isRun
    rwa [length_labelsOf] at inside

/-- **The cells of a header tile its grid.** -/
theorem tilesGrid_planHeader (columns : List Column) :
    (planHeader columns).TilesGrid columns.length where
  rows _ member := rows_of_mem_cells member
  columns _ member := columns_of_mem_cells member
  once row isRow column isColumn := by
    have covered := covers_filter isRow
    have distinct : (List.range columns.length).Nodup := List.nodup_range
    have inside := List.mem_range.mpr isColumn
    rw [← covered] at distinct inside
    obtain ⟨c, single⟩ := exists_filter_eq_singleton distinct inside
    rw [List.filter_filter] at single
    refine ⟨c, single ▸ List.filter_congr fun other _ => ?_⟩
    rw [HeaderCell.covers, Bool.and_comm]

/-- **The cell at the foot of a header** is that of its column. -/
theorem heads_of_covers {column : Column} (isColumn : columns[i]? = some column)
    (member : c ∈ (planHeader columns).cells)
    (covers : c.covers ((planHeader columns).rows - 1) i = true) :
    c.Heads (planHeader columns) i column := by
  obtain ⟨⟨_, reaches⟩, has⟩ := covers_iff.mp covers
  rcases mem_cells_planHeader member with ⟨j, other, isOther, rfl⟩ | ⟨two, _, top, _⟩
  · have here : j = i := Nat.le_antisymm has.1 has.2
    subst here
    cases isColumn.symm.trans isOther
    refine ⟨⟨rfl, rfl⟩, ⟨rfl, rfl⟩, ?_⟩
    have rows := rows_planHeader columns
    dsimp only [HeaderCell.SpansBoth, footCell, columnCell]
    by_cases unlabelled : column.mergeHeader = ""
    · rw [if_pos unlabelled]
      split at rows <;> simp [rows, unlabelled]
    · rw [if_pos ⟨column, List.mem_of_getElem? isColumn, unlabelled⟩] at rows
      rw [if_neg unlabelled, rows]
      simp [unlabelled]
  · omega

/-! ### The cells of labels -/

/-- A block of a label is a run of it. -/
theorem LabelBlock.mem_labelRuns {labels : List String} {run : LabelRun}
    (block : LabelBlock labels run) : run ∈ labelRuns labels := by
  have start := block.shared run.first ⟨Nat.le_refl _, block.forward⟩
  obtain ⟨inside, _⟩ := List.getElem?_eq_some_iff.mp start
  obtain ⟨other, isOther, has⟩ := (tiles_labelRuns labels).exists_run (Nat.zero_le _) inside
  have sameLabel : other.label = run.label := by
    have labelHere := labelled_of_mem_labelRuns isOther has
    rw [start] at labelHere
    exact (Option.some.inj labelHere).symm
  have labelledAt : ∀ i, other.Has i → labels[i]? = some run.label := by
    intro i hasIt
    rw [labelled_of_mem_labelRuns isOther hasIt, sameLabel]
  have sameFirst : other.first = run.first := by
    by_contra earlier
    have least := has.1
    exact block.before (run.first - 1) (by omega)
      (labelledAt _ ⟨by omega, Nat.le_trans (Nat.sub_le _ _) has.2⟩)
  have sameLast : other.last = run.last := by
    rcases Nat.lt_trichotomy other.last run.last with ends | same | goesOn
    · have next := block.shared (other.last + 1) ⟨Nat.le_succ_of_le has.2, ends⟩
      have behind := label_behind isOther (sameLabel ▸ block.labelled)
      rw [sameLabel] at behind
      exact absurd next behind
    · exact same
    · exact absurd (labelledAt _ ⟨by have := block.forward; omega, goesOn⟩) block.behind
  obtain ⟨first, last, label⟩ := other
  cases sameFirst
  cases sameLast
  cases sameLabel
  exact isOther

/-- **A block of a label has one cell**, in the top row. -/
theorem exists_labelCell {run : LabelRun} (block : LabelBlock (labelsOf columns) run) :
    ∃ c, (planHeader columns).cells.filter
      (fun c => c.firstRow = 0 && c.lastRow = 0 && c.run = run) = [c] := by
  have isRun := block.mem_labelRuns
  have start := block.shared run.first ⟨Nat.le_refl _, block.forward⟩
  obtain ⟨column, isColumn, sameLabel⟩ := getElem?_labelsOf.mp start
  have two : (planHeader columns).rows = 2 := by
    rw [rows_planHeader, if_pos ⟨column, List.mem_of_getElem? isColumn, sameLabel ▸ block.labelled⟩]
  have cells : ((planHeader columns).labelCells.filter
      ((decide <| · = run) ∘ HeaderCell.run)).map HeaderCell.run = [run] := by
    rw [← List.filter_map, map_run_labelCells, List.filter_filter]
    refine filter_eq_singleton (nodup_labelRuns _) isRun ?_ fun other _ holds => ?_
    · simp [block.labelled]
    · exact of_decide_eq_true (Bool.and_eq_true_iff.mp holds).1
  obtain ⟨c, single, _⟩ := List.map_eq_singleton_iff.mp cells
  refine ⟨c, single ▸ ?_⟩
  rw [HeaderPlan.labelCells, List.filter_filter]
  refine List.filter_congr fun other member => ?_
  have rows := rows_of_mem_cells member
  have top : (other.firstRow = 0 ∧ other.lastRow = 0) ↔
      other.lastRow + 1 < (planHeader columns).rows := by
    omega
  rw [Bool.and_comm]
  simp [← top]

/-! ### Borders -/

/-- A cell that spans both rows is over one column. -/
theorem isVertical_iff (member : c ∈ (planHeader columns).cells) :
    c.isVertical = true ↔ c.SpansBoth := by
  have rows := rows_of_mem_cells member
  have most := rows_planHeader columns
  unfold HeaderCell.isVertical HeaderCell.SpansBoth
  rw [Bool.and_eq_true, decide_eq_true_eq, decide_eq_true_eq]
  rcases mem_cells_planHeader member with ⟨i, column, _, rfl⟩ | ⟨_, top, top', _⟩
  · have single : (footCell columns i column).firstColumn =
      (footCell columns i column).lastColumn := rfl
    split at most <;> omega
  · omega

/-- **The borders of a header** are those of boxes around the cells that span both rows. -/
theorem mem_borders_planHeader {border : Border} :
    (row, i, border) ∈ (planHeader columns).borders ↔
      ∃ c ∈ (planHeader columns).cells, c.SpansBoth ∧ c.covers row i = true ∧
        border = c.boxBorder row := by
  rw [HeaderPlan.borders, List.mem_flatMap]
  constructor
  · rintro ⟨c, isVertical, drawn⟩
    obtain ⟨member, vertical⟩ := List.mem_filter.mp isVertical
    obtain ⟨row', isRow, same⟩ := List.mem_map.mp drawn
    cases same
    rw [List.range_eq_range', List.drop_range', List.mem_range'_1] at isRow
    have covers : c.covers row c.firstColumn = true :=
      covers_iff.mpr ⟨by omega, Nat.le_refl _, (columns_of_mem_cells member).1⟩
    exact ⟨c, member, (isVertical_iff member).mp vertical, covers, rfl⟩
  · rintro ⟨c, member, both, covers, rfl⟩
    have vertical := (isVertical_iff member).mpr both
    obtain ⟨inRows, has⟩ := covers_iff.mp covers
    have single := (Bool.and_eq_true_iff.mp vertical).2
    have here : i = c.firstColumn :=
      Nat.le_antisymm (Nat.le_trans has.2 (Nat.le_of_eq (of_decide_eq_true single).symm)) has.1
    refine ⟨c, List.mem_filter.mpr ⟨member, vertical⟩, List.mem_map.mpr ⟨row, ?_, ?_⟩⟩
    · rw [List.range_eq_range', List.drop_range', List.mem_range'_1]
      omega
    · rw [here]
      rfl

end Cells

/-- **A header as a grid.** Whether or not its labels are contiguous, it has two rows just where a
column has a label, and else one, and its cells tile these over the columns. At the foot, each
column has its cell; at the top, each block of columns with a label has one cell for it. Borders are
drawn at the positions of the cells that span both rows, and nowhere else. -/
theorem planHeader_grid (columns : List Column) :
    (planHeader columns).TilesGrid columns.length ∧
      (planHeader columns).rows = (if ∃ c ∈ columns, c.mergeHeader ≠ "" then 2 else 1) ∧
      (∀ i column, columns[i]? = some column → ∃ c,
        (planHeader columns).cells.filter
            (HeaderCell.covers ((planHeader columns).rows - 1) i) = [c] ∧
          c.Heads (planHeader columns) i column) ∧
      (∀ run, LabelBlock (labelsOf columns) run → ∃ c,
        (planHeader columns).cells.filter
          (fun c => c.firstRow = 0 && c.lastRow = 0 && c.run = run) = [c]) ∧
      ∀ row i border, (row, i, border) ∈ (planHeader columns).borders ↔
        ∃ c ∈ (planHeader columns).cells, c.SpansBoth ∧ c.covers row i = true ∧
          border = c.boxBorder row := by
  have tiles := tilesGrid_planHeader columns
  refine ⟨tiles, rows_planHeader columns, fun i column isColumn => ?_,
    fun run block => exists_labelCell block, fun row i border => mem_borders_planHeader⟩
  have rows := one_le_rows_planHeader columns
  have inside := (List.getElem?_eq_some_iff.mp isColumn).1
  obtain ⟨c, single⟩ := tiles.once ((planHeader columns).rows - 1) (by omega) i inside
  obtain ⟨member, covers⟩ := List.mem_filter.mp (single ▸ List.mem_cons_self)
  exact ⟨c, single, heads_of_covers isColumn member covers⟩

end SheetExport
