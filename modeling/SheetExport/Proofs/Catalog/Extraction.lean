/-
**What extracting a record type gives.**

* `StableSort key before after` — ascending, and elements of one key stay as they were
  (`stableSort_mergeSort`);
* `exported autoColumn bindings` — the fields that are selected, with what they declare or else with
  the order of their place (`selectColumns_eq`);
* `Describes c t sheet b spec column` — the column is the one that a field asks for, its styles being
  those that the catalog keeps (`of_makeColumn`);
* `columns_of_extractColumns` — a type gives the columns that its selected fields ask for, sorted by
  order, and has no columns just when no field is selected;
* `split_partitions` — a sheet is split into the sheets that its columns go to, and those of a
  record type pass the checks of the whole.
-/

import SheetExport.Proofs.Style.Selection

namespace SheetExport

/-! ### Stable sorting -/

section Sorting

variable {α : Type} {key : α → Int} {before after : List α}

/-- The elements in ascending order of their keys; those of one key stay as they were. -/
structure StableSort (key : α → Int) (before after : List α) : Prop where
  perm : after.Perm before
  ascending : after.Pairwise fun a b => key a ≤ key b
  ties : ∀ k, after.filter (key · = k) = before.filter (key · = k)

theorem stableSort_mergeSort (key : α → Int) (xs : List α) :
    StableSort key xs (xs.mergeSort fun a b => decide (key a ≤ key b)) where
  perm := List.mergeSort_perm _ _
  ascending := pairwise_mergeSort_by key xs
  ties k := by
    have trans (a b c : α) (first : decide (key a ≤ key b) = true)
        (second : decide (key b ≤ key c) = true) : decide (key a ≤ key c) = true :=
      decide_eq_true (Int.le_trans (of_decide_eq_true first) (of_decide_eq_true second))
    have total (a b : α) : (decide (key a ≤ key b) || decide (key b ≤ key a)) = true := by
      simpa using Int.le_total (key a) (key b)
    -- Elements of one key are ascending as they stand, so sorting leaves them in a row.
    have tied : (xs.filter (key · = k)).Pairwise fun a b => decide (key a ≤ key b) = true := by
      refine List.pairwise_of_forall_mem_list fun a isTied b isTied' => decide_eq_true ?_
      rw [of_decide_eq_true (List.mem_filter.mp isTied).2,
        of_decide_eq_true (List.mem_filter.mp isTied').2]
    have kept := (List.sublist_mergeSort trans total tied List.filter_sublist).filter (key · = k)
    rw [List.filter_filter] at kept
    simp only [Bool.and_self] at kept
    exact (kept.eq_of_length ((List.mergeSort_perm xs _).filter _).length_eq.symm).symm

/-- What is strictly ascending already stays as it is. -/
theorem StableSort.eq_of_ascending (sorts : StableSort key before after)
    (strict : before.Pairwise fun a b => key a < key b) : after = before := by
  have apart : (before.map key).Nodup := List.pairwise_map.mpr (strict.imp Int.ne_of_lt)
  refine List.Perm.eq_of_pairwise (fun a b isFirst isSecond le ge => ?_) sorts.ascending
    (strict.imp Int.le_of_lt) sorts.perm
  exact List.inj_on_of_nodup_map apart (sorts.perm.mem_iff.mp isFirst) isSecond
    (Int.le_antisymm le ge)

end Sorting

namespace Catalog

variable {c c' : Catalog} {t : RecordType} {sheet : SheetSpec} {b : Binding} {spec : ColumnSpec}

/-! ### Selected fields -/

/-- The field is not excluded, and declares a column unless all fields are columns. -/
def isExported (autoColumn : Bool) (b : Binding) : Bool :=
  match b.column with
  | some spec => !spec.exclude
  | none => autoColumn

/-- The selected fields in their order, with the columns that they declare. A field that declares
none has its name as the header, and as its order one more than there are fields before it. -/
def exported (autoColumn : Bool) (bindings : List Binding) : List (Binding × ColumnSpec) :=
  (bindings.filter (isExported autoColumn)).mapIdx fun i b =>
    (b, b.column.getD { header := b.name, order := 1 + i })

/-- **Fields are selected as they declare it**, and count from the given order on. -/
theorem selectColumns_eq (autoColumn : Bool) (position : Int) (bindings : List Binding) :
    selectColumns autoColumn position bindings =
      (bindings.filter (isExported autoColumn)).mapIdx fun i b =>
        (b, b.column.getD { header := b.name, order := position + i }) := by
  have shifted (i : Nat) : position + 1 + (i : Int) = position + ((i + 1 : Nat) : Int) := by omega
  induction bindings generalizing position with
  | nil => rfl
  | cons b rest ih =>
    have further : selectColumns autoColumn (position + 1) rest =
        (rest.filter (isExported autoColumn)).mapIdx fun i b =>
          (b, b.column.getD { header := b.name, order := position + ((i + 1 : Nat) : Int) }) := by
      rw [ih (position + 1) fun i => by omega]
      simp only [show ∀ i : Nat, position + 1 + (i : Int) = position + ((i + 1 : Nat) : Int) by omega]
    cases declared : b.column with
    | some spec =>
      cases excluded : spec.exclude with
      | true =>
        rw [List.filter_cons_of_neg (by simp [isExported, declared, excluded]), ← ih position shifted]
        simp [selectColumns, declared, excluded]
      | false =>
        rw [List.filter_cons_of_pos (by simp [isExported, declared, excluded]), List.mapIdx_cons,
          ← further]
        simp [selectColumns, declared, excluded]
    | none =>
      cases autoColumn with
      | true =>
        rw [List.filter_cons_of_pos (by simp [isExported, declared]), List.mapIdx_cons, ← further]
        simp [selectColumns, declared]
      | false =>
        rw [List.filter_cons_of_neg (by simp [isExported, declared]), ← ih position shifted]
        simp [selectColumns, declared]

theorem selectColumns_one (autoColumn : Bool) (bindings : List Binding) :
    selectColumns autoColumn 1 bindings = exported autoColumn bindings :=
  selectColumns_eq autoColumn 1 bindings

/-! ### Columns -/

/-- The style class of a column's header: its own, else the sheet's, else the default. -/
def headerClass (spec : ColumnSpec) (sheet : SheetSpec) : StyleClass :=
  (spec.headerStyle.or sheet.headerStyle).getD .header

/-- The style class of a column's cells: its own, else the sheet's, else the default of its kind. -/
def cellClass (spec : ColumnSpec) (sheet : SheetSpec) (kind : FieldKind) : StyleClass :=
  (spec.columnStyle.or sheet.columnStyle).getD (if kind = .numeric then .number else .column)

/-- The style class of the label above a column: its own, else that of the column's header. -/
def labelClass (spec : ColumnSpec) (sheet : SheetSpec) : StyleClass :=
  spec.mergeHeaderStyle.getD (headerClass spec sheet)

/-- The column is the one that a field asks for, with the styles that the catalog keeps. -/
structure Describes (c : Catalog) (t : RecordType) (sheet : SheetSpec) (b : Binding)
    (spec : ColumnSpec) (column : Column) : Prop where
  name : column.name = b.name
  /-- The header is the declared one, or else the field's name. -/
  header : column.header = if spec.header = "" then b.name else spec.header
  order : column.order = spec.order
  width : column.width = width spec.width column.columnStyle
  accessor : ∃ type, resolveAccessor t b column.header = .ok (column.accessor, type) ∧
    column.kind = type.kind
  headerStyle : c.styles.get? (headerClass spec sheet).key = some column.headerStyle
  columnStyle : c.styles.get? (cellClass spec sheet column.kind).key = some column.columnStyle
  mergeHeaderStyle : c.styles.get? (labelClass spec sheet).key = some column.mergeHeaderStyle
  dataFormat : column.dataFormat = spec.dataFormat
  sheetName : column.sheetName = spec.sheetName
  masking : column.masking = some spec.masking
  mergeHeader : column.mergeHeader = spec.mergeHeader
  /-- The rules are those that are declared, sorted by descending priority. -/
  rules : ∃ made, List.Forall₂ (MadeFrom c) spec.rules made ∧
    StableSort (fun rule : StyleRule => -rule.priority) made column.rules

/-- A catalog that keeps more describes the same. -/
theorem Describes.mono {column : Column} (describes : Describes c t sheet b spec column)
    (grows : Grows c c') : Describes c' t sheet b spec column where
  name := describes.name
  header := describes.header
  order := describes.order
  width := describes.width
  accessor := describes.accessor
  headerStyle := grows _ _ describes.headerStyle
  columnStyle := grows _ _ describes.columnStyle
  mergeHeaderStyle := grows _ _ describes.mergeHeaderStyle
  dataFormat := describes.dataFormat
  sheetName := describes.sheetName
  masking := describes.masking
  mergeHeader := describes.mergeHeader
  rules := by
    obtain ⟨made, all, sorted⟩ := describes.rules
    exact ⟨made, all.imp fun _ _ isMade => isMade.mono grows, sorted⟩

/-- **A width is positive, or that of fitting to the content.** -/
theorem width_pos_or_auto (declared : Int) (style : Style) :
    0 < width declared style ∨ width declared style = -1 := by
  unfold width
  split
  · split
    · exact Or.inr rfl
    · exact Or.inl (by omega)
  · split
    · exact Or.inr rfl
    · split
      · exact Or.inl ‹_›
      · exact Or.inl (by decide)

theorem stableSort_inEvaluationOrder (rules : List StyleRule) :
    StableSort (fun rule : StyleRule => -rule.priority) rules (inEvaluationOrder rules) := by
  have sorted := stableSort_mergeSort (fun rule : StyleRule => -rule.priority) rules
  simp only [Int.neg_le_neg_iff] at sorted
  exact sorted

theorem headerStyle_eq (spec : ColumnSpec) (sheet : SheetSpec) :
    headerStyle spec sheet = style (headerClass spec sheet) := by
  unfold headerStyle headerClass
  cases own : spec.headerStyle <;> cases shared : sheet.headerStyle <;> simp [own]

theorem columnStyle_eq (spec : ColumnSpec) (sheet : SheetSpec) (kind : FieldKind) :
    columnStyle spec sheet kind = style (cellClass spec sheet kind) := by
  unfold columnStyle cellClass
  cases own : spec.columnStyle <;> cases shared : sheet.columnStyle <;> simp [own]

theorem mergeHeaderStyle_eq (spec : ColumnSpec) (sheet : SheetSpec) :
    mergeHeaderStyle spec sheet = style (labelClass spec sheet) := by
  unfold mergeHeaderStyle labelClass
  cases own : spec.mergeHeaderStyle <;> simp [own, headerStyle_eq]

theorem yields_noting_iff {α : Type} {note : String} {x : CatalogM α} {a : α} :
    Yields (noting note x) c a c' ↔ Yields x c a c' := by
  unfold Yields
  rw [run_noting]
  cases x.run.run c with
  | mk result c₁ =>
    cases result with
    | ok found => rfl
    | error failure => exact ⟨(by cases ·), (by cases ·)⟩

/-- **The column of a field is the one that it asks for.** -/
theorem of_makeColumn {column : Column} (keeps : KeepsChecked c)
    (made : Yields (makeColumn t sheet b spec) c column c') :
    KeepsChecked c' ∧ Grows c c' ∧ Describes c' t sheet b spec column := by
  unfold makeColumn at made
  dsimp only at made
  split at made
  · exact absurd made (not_yields_throw _)
  · rename_i accessor type resolved
    obtain ⟨cells, c₁, styled, made⟩ := yields_bind_iff.mp made
    obtain ⟨rules, c₂, noted, made⟩ := yields_bind_iff.mp made
    obtain ⟨header, c₃, headed, made⟩ := yields_bind_iff.mp made
    obtain ⟨label, c₄, labelled, made⟩ := yields_bind_iff.mp made
    obtain ⟨rfl, rfl⟩ := yields_pure_iff.mp made
    have compiled := yields_noting_iff.mp noted
    obtain ⟨keeps₁, -⟩ := (lasting_keepsChecked.columnStyle _ _ _).of_yields keeps styled
    obtain ⟨keeps₂, grows₂, unsorted, rfl, all⟩ := of_compileRules (Or.inl rfl) keeps₁ compiled
    obtain ⟨keeps₃, -⟩ := (lasting_keepsChecked.headerStyle _ _).of_yields keeps₂ headed
    obtain ⟨keeps₄, -⟩ := (lasting_keepsChecked.mergeHeaderStyle _ _).of_yields keeps₃ labelled
    rw [columnStyle_eq] at styled
    rw [headerStyle_eq] at headed
    rw [mergeHeaderStyle_eq] at labelled
    obtain ⟨cellsKept, grows₁⟩ := of_style styled
    obtain ⟨headerKept, grows₃⟩ := of_style headed
    obtain ⟨labelKept, grows₄⟩ := of_style labelled
    have last := grows₃.trans grows₄
    refine ⟨keeps₄, grows₁.trans (grows₂.trans last), ?_⟩
    exact {
      name := rfl
      header := rfl
      order := rfl
      width := rfl
      accessor := ⟨type, resolved, rfl⟩
      headerStyle := grows₄ _ _ headerKept
      columnStyle := last _ _ (grows₂ _ _ cellsKept)
      mergeHeaderStyle := labelKept
      dataFormat := rfl
      sheetName := rfl
      masking := rfl
      mergeHeader := rfl
      rules := ⟨unsorted, all.imp fun _ _ isMade => isMade.mono last,
        stableSort_inEvaluationOrder unsorted⟩ }

/-- What a field declares can be used: its accessor, its conditions, and its styles. -/
structure Usable (t : RecordType) (sheet : SheetSpec) (b : Binding) (spec : ColumnSpec) : Prop where
  accessor : ∃ found, resolveAccessor t b (if spec.header = "" then b.name else spec.header) = .ok found
  conditions : ∀ rule ∈ spec.rules, ∃ condition, Condition.ofValue rule.condition = .ok condition
  styles : ∀ rule ∈ spec.rules, ∀ attempt, ∃ s, rule.style.configure attempt = .ok s
  headerStyle : ∀ attempt, ∃ s, (headerClass spec sheet).configure attempt = .ok s
  columnStyle : ∀ kind attempt, ∃ s, (cellClass spec sheet kind).configure attempt = .ok s
  mergeHeaderStyle : ∀ attempt, ∃ s, (labelClass spec sheet).configure attempt = .ok s

/-- A field that declares neither an accessor nor styles is usable if its rules are. -/
theorem Usable.of_plain (accessor : b.column.bind ColumnSpec.accessor = none)
    (own : spec.headerStyle = none ∧ spec.columnStyle = none ∧ spec.mergeHeaderStyle = none)
    (shared : sheet.headerStyle = none ∧ sheet.columnStyle = none)
    (conditions : ∀ rule ∈ spec.rules, ∃ condition, Condition.ofValue rule.condition = .ok condition)
    (styles : ∀ rule ∈ spec.rules, ∀ attempt, ∃ s, rule.style.configure attempt = .ok s) :
    Usable t sheet b spec := by
  have header : headerClass spec sheet = .header := by rw [headerClass, own.1, shared.1]; rfl
  refine ⟨⟨(.ofName b.name, b.type), by rw [resolveAccessor, accessor]⟩, conditions, styles, ?_, ?_, ?_⟩
  · rw [header]
    exact fun _ => ⟨_, rfl⟩
  · intro kind attempt
    rw [cellClass, own.2.1, shared.2]
    by_cases numeric : kind = .numeric
    · exact ⟨_, by rw [if_pos numeric]; rfl⟩
    · exact ⟨_, by rw [if_neg numeric]; rfl⟩
  · rw [labelClass, own.2.2, header]
    exact fun _ => ⟨_, rfl⟩

/-- **A field whose declarations can be used has a column.** -/
theorem exists_yields_makeColumn (usable : Usable t sheet b spec) (c : Catalog) :
    ∃ column c', Yields (makeColumn t sheet b spec) c column c' := by
  obtain ⟨⟨accessor, type⟩, resolved⟩ := usable.accessor
  obtain ⟨cells, c₁, styled⟩ := exists_yields_style (usable.columnStyle type.kind) c
  obtain ⟨rules, c₂, compiled⟩ := exists_yields_compileRules usable.conditions usable.styles c₁
  obtain ⟨header, c₃, headed⟩ := exists_yields_style usable.headerStyle c₂
  obtain ⟨label, c₄, labelled⟩ := exists_yields_style usable.mergeHeaderStyle c₃
  rw [← columnStyle_eq] at styled
  rw [← headerStyle_eq] at headed
  rw [← mergeHeaderStyle_eq] at labelled
  unfold makeColumn
  dsimp only
  rw [resolved]
  exact ⟨_, c₄, styled.bind ((yields_noting_iff.mpr compiled).bind
    (headed.bind (labelled.bind (.pure _ _))))⟩

/-! ### The columns of a record type -/

/-- The columns of selected fields, one after the other. -/
def makeColumns (t : RecordType) (sheet : SheetSpec) (fields : List (Binding × ColumnSpec)) :
    CatalogM (List Column) :=
  fields.mapM fun (b, spec) => makeColumn t sheet b spec

/-- The columns are those that the fields ask for. -/
def DescribeAll (c : Catalog) (t : RecordType) (sheet : SheetSpec)
    (fields : List (Binding × ColumnSpec)) (columns : List Column) : Prop :=
  List.Forall₂ (fun p column => Describes c t sheet p.1 p.2 column) fields columns

theorem of_makeColumns {fields : List (Binding × ColumnSpec)} {columns : List Column}
    (keeps : KeepsChecked c) (made : Yields (makeColumns t sheet fields) c columns c') :
    DescribeAll c' t sheet fields columns :=
  (forall₂_of_yields_mapM
    (R := fun c (p : Binding × ColumnSpec) column => Describes c t sheet p.1 p.2 column)
    Grows.refl (fun _ _ _ => Grows.trans)
    (fun _ _ _ _ grows describes => describes.mono grows)
    (fun _ _ _ _ => of_makeColumn) keeps made).2.2

theorem exists_yields_makeColumns {fields : List (Binding × ColumnSpec)}
    (usable : ∀ p ∈ fields, Usable t sheet p.1 p.2) (c : Catalog) :
    ∃ columns c', Yields (makeColumns t sheet fields) c columns c' := by
  induction fields generalizing c with
  | nil => exact ⟨[], c, .pure _ _⟩
  | cons p fields ih =>
    obtain ⟨column, c₁, first⟩ := exists_yields_makeColumn (usable p List.mem_cons_self) c
    obtain ⟨columns, c₂, others⟩ := ih (fun p' member => usable p' (List.mem_cons_of_mem _ member)) c₁
    exact ⟨column :: columns, c₂, yields_mapM_cons_iff.mpr ⟨column, c₁, columns, rfl, first, others⟩⟩

/-- Behind the fields, a type has no columns, or labels with gaps, or all is well. -/
theorem run_extractColumns {bindings : List Binding} {made : List Column} {c₁ c₂ : Catalog}
    (reads : Yields (readSheet t) c (sheet, bindings) c₁)
    (makes : Yields (makeColumns t sheet (exported sheet.autoColumn bindings)) c₁ made c₂) :
    (extractColumns t).run.run c =
      (if made.isEmpty then .error (.noColumns t.title)
        else (checkLabels t.title sheet.name (sortColumns made)).map
          fun _ => (sheet, sortColumns made), c₂) := by
  unfold makeColumns at makes
  rw [← selectColumns_one] at makes
  unfold Yields at reads makes
  unfold extractColumns
  rw [run_run_bind, reads]
  dsimp only
  rw [run_run_bind, makes]
  dsimp only
  split
  · rfl
  · cases checkLabels t.title sheet.name (sortColumns made) <;> rfl

/-- What is extracted are the sorted columns of the selected fields. -/
theorem of_extractColumns {columns : List Column}
    (extracted : Yields (extractColumns t) c (sheet, columns) c') :
    ∃ bindings c₁ made, Yields (readSheet t) c (sheet, bindings) c₁ ∧
      Yields (makeColumns t sheet (exported sheet.autoColumn bindings)) c₁ made c' ∧
      columns = sortColumns made := by
  have whole := extracted
  unfold extractColumns at extracted
  obtain ⟨⟨sheet', bindings⟩, c₁, reads, extracted⟩ := yields_bind_iff.mp extracted
  obtain ⟨made, c₂, makes, -⟩ := yields_bind_iff.mp extracted
  rw [selectColumns_one] at makes
  have run := run_extractColumns reads makes
  rw [Yields, run] at whole
  split at whole
  · cases whole
  · cases checked : checkLabels t.title sheet'.name (sortColumns made) with
    | error failure =>
      rw [checked] at whole
      cases whole
    | ok done =>
      rw [checked] at whole
      cases whole
      exact ⟨bindings, c₁, made, reads, makes, rfl⟩

/-- Fields that declare no column have the orders from one on. -/
theorem orders_of_undeclared {fields : List Binding} {columns : List Column}
    (undeclared : ∀ b ∈ fields, b.column = none)
    (describe : DescribeAll c t sheet
      (fields.mapIdx fun i b => (b, b.column.getD { header := b.name, order := 1 + i })) columns) :
    columns.map Column.order = (List.range columns.length).map fun i : Nat => 1 + (i : Int) := by
  have same := describe.length_eq
  rw [List.length_mapIdx] at same
  refine List.ext_getElem (by simp) fun i isColumn isPlace => ?_
  rw [List.length_map] at isColumn
  have isField : i < fields.length := same ▸ isColumn
  have describes := describe.get (by simpa using isField) isColumn
  simp only [List.get_eq_getElem, List.getElem_mapIdx] at describes
  rw [undeclared _ (List.getElem_mem isField)] at describes
  simp [describes.order]

/-- A type whose columns can be made has none just when no field is selected. -/
theorem exists_fails_noColumns_iff {bindings : List Binding} {made : List Column}
    {c₁ c₂ : Catalog} (reads : Yields (readSheet t) c (sheet, bindings) c₁)
    (makes : Yields (makeColumns t sheet (exported sheet.autoColumn bindings)) c₁ made c₂)
    (type : String) : (∃ c', Fails (extractColumns t) c (.noColumns type) c') ↔
      type = t.title ∧ exported sheet.autoColumn bindings = [] := by
  have none : made.isEmpty = true ↔ exported sheet.autoColumn bindings = [] := by
    rw [List.isEmpty_iff, ← List.length_eq_zero_iff, length_of_yields_mapM makes,
      List.length_eq_zero_iff]
  have run := run_extractColumns reads makes
  constructor
  · rintro ⟨c', fails⟩
    rw [Fails, run] at fails
    split at fails
    · rename_i isEmpty
      cases fails
      exact ⟨rfl, none.mp isEmpty⟩
    · cases checked : checkLabels t.title sheet.name (sortColumns made) with
      | ok done =>
        rw [checked] at fails
        cases fails
      | error failure =>
        obtain ⟨owner, gap, rfl⟩ := exists_gap_of_checkLabels checked
        rw [checked] at fails
        cases fails
  · rintro ⟨rfl, isEmpty⟩
    refine ⟨c₂, ?_⟩
    rw [Fails, run, if_pos (none.mpr isEmpty)]

/-- **A record type gives the columns that its selected fields ask for, sorted by order.** All have a
positive width or that of fitting to the content, and rules by descending priority. Where no selected
field declares a column, the columns stand as the fields do and count from one. A type has no columns
just when no field is selected, if all columns can be made. -/
theorem columns_of_extractColumns (reachable : Reachable c) (t : RecordType) :
    (∀ sheet columns c', Yields (extractColumns t) c (sheet, columns) c' →
      ∃ bindings c₁ made, Yields (readSheet t) c (sheet, bindings) c₁ ∧
        DescribeAll c' t sheet (exported sheet.autoColumn bindings) made ∧
        StableSort Column.order made columns ∧
        (∀ column ∈ columns, (0 < column.width ∨ column.width = -1) ∧
          column.rules.Pairwise fun first later => later.priority ≤ first.priority) ∧
        ((∀ b ∈ bindings, isExported sheet.autoColumn b = true → b.column = none) →
          columns = made ∧
            columns.map Column.order = (List.range columns.length).map fun i : Nat => 1 + (i : Int))) ∧
    ∀ sheet bindings c₁ made c₂, Yields (readSheet t) c (sheet, bindings) c₁ →
      Yields (makeColumns t sheet (exported sheet.autoColumn bindings)) c₁ made c₂ →
      ∀ type, (∃ c', Fails (extractColumns t) c (.noColumns type) c') ↔
        type = t.title ∧ exported sheet.autoColumn bindings = [] := by
  constructor
  · intro sheet columns c' extracted
    obtain ⟨bindings, c₁, made, reads, makes, rfl⟩ := of_extractColumns extracted
    have keeps := ((lasting_keepsChecked.readSheet t).of_yields (checked_of_reachable reachable)
      reads).1
    have describe := of_makeColumns keeps makes
    have sorts : StableSort Column.order made (sortColumns made) :=
      stableSort_mergeSort Column.order made
    refine ⟨bindings, c₁, made, reads, describe, sorts, fun column isColumn => ?_, ?_⟩
    · obtain ⟨p, _, describes⟩ := exists_of_mem_right describe (sorts.perm.mem_iff.mp isColumn)
      obtain ⟨unsorted, _, sortsRules⟩ := describes.rules
      refine ⟨describes.width ▸ width_pos_or_auto _ _, sortsRules.ascending.imp fun le => ?_⟩
      exact Int.neg_le_neg_iff.mp le
    · intro undeclared
      have orders := orders_of_undeclared
        (fun b selected => undeclared b (List.mem_filter.mp selected).1
          (List.mem_filter.mp selected).2) describe
      have strict : made.Pairwise fun a b => a.order < b.order := by
        rw [← List.pairwise_map (f := Column.order) (R := (· < ·)), orders, List.pairwise_map]
        exact List.pairwise_lt_range.imp fun less => by omega
      have same := sorts.eq_of_ascending strict
      refine ⟨same, ?_⟩
      rw [same]
      exact orders
  · intro sheet bindings c₁ made c₂ reads makes type
    exact exists_fails_noColumns_iff reads makes type

/-! ### Fields that are declared, excluded and left to count -/

/-- The header, the order and the label that a field's column has. -/
def heading (p : Binding × ColumnSpec) : String × Int × String :=
  (if p.2.header = "" then p.1.name else p.2.header, p.2.order, p.2.mergeHeader)

/-- The header, the order and the label of a column. -/
def headingOf (column : Column) : String × Int × String :=
  (column.header, column.order, column.mergeHeader)

theorem map_headingOf {fields : List (Binding × ColumnSpec)} {columns : List Column}
    (describe : DescribeAll c t sheet fields columns) :
    columns.map headingOf = fields.map heading := by
  induction describe with
  | nil => rfl
  | cons describes _ ih =>
    rw [List.map_cons, List.map_cons, ih, headingOf, heading, describes.header, describes.order,
      describes.mergeHeader]

/-- Columns without labels pass the check. -/
theorem checkLabels_of_unlabelled {columns : List Column} (type name : String)
    (unlabelled : ∀ column ∈ columns, column.mergeHeader = "") :
    checkLabels type name columns = .ok () := by
  refine forM_eq_ok_iff.mpr fun ⟨target, members⟩ isGroup => ?_
  have inColumns : ∀ column ∈ members, column ∈ columns := by
    obtain ⟨_, rfl⟩ := (mem_groupBy_iff (Column.target name)).mp isGroup
    exact fun column isMember => (List.mem_filter.mp isMember).1
  have passes : checkMergeHeaders members = .ok () := by
    refine (checkMergeHeaders_iff members).1.mpr fun label labelled several => ?_
    obtain ⟨column, isMember⟩ := List.exists_mem_of_length_pos (Nat.lt_of_lt_of_le two_pos several)
    obtain ⟨isColumn, isLabel⟩ := List.mem_filter.mp isMember
    rw [← of_decide_eq_true isLabel] at labelled
    exact absurd (unlabelled column (inColumns column isColumn)) labelled
  dsimp only
  rw [passes]
  rfl

/-- **Usable fields without labels have columns**, in the order of their headings. -/
theorem exists_yields_extractColumns (reachable : Reachable c) {bindings : List Binding}
    {c₁ : Catalog} (reads : Yields (readSheet t) c (sheet, bindings) c₁)
    (usable : ∀ p ∈ exported sheet.autoColumn bindings, Usable t sheet p.1 p.2)
    (unlabelled : ∀ p ∈ exported sheet.autoColumn bindings, p.2.mergeHeader = "")
    (notEmpty : exported sheet.autoColumn bindings ≠ []) :
    ∃ columns c', Yields (extractColumns t) c (sheet, columns) c' ∧
      columns.map headingOf = ((exported sheet.autoColumn bindings).map heading).mergeSort
        fun a b => decide (a.2.1 ≤ b.2.1) := by
  obtain ⟨made, c₂, makes⟩ := exists_yields_makeColumns usable c₁
  have keeps := ((lasting_keepsChecked.readSheet t).of_yields (checked_of_reachable reachable)
    reads).1
  have describe := of_makeColumns keeps makes
  have someMade : made ≠ [] := by
    rw [← List.length_pos_iff, length_of_yields_mapM makes]
    exact List.length_pos_iff.mpr notEmpty
  have run := run_extractColumns reads makes
  rw [if_neg (by simpa using someMade), checkLabels_of_unlabelled] at run
  · refine ⟨sortColumns made, c₂, run, ?_⟩
    rw [← map_headingOf describe]
    exact List.map_mergeSort fun _ _ _ _ => rfl
  · intro column isColumn
    obtain ⟨p, isField, describes⟩ :=
      exists_of_mem_right describe ((List.mergeSort_perm made _).mem_iff.mp isColumn)
    rw [describes.mergeHeader, unlabelled p isField]

/-- A type whose fields are columns unless they are excluded. -/
def countedType (bindings : List Binding) : RecordType :=
  { RecordType.ofName "Invoice" with
    source := .schema ⟨some { name := "Invoices", autoColumn := true }, bindings⟩ }

/-- The type reads as its sheet and these fields. -/
theorem reads_countedType (bindings : List Binding) :
    Yields (readSheet (countedType bindings)) .empty
      ({ name := "Invoices", autoColumn := true }, bindings) .empty := rfl

/-- A column of another sheet with two rules. -/
def stateColumn : ColumnSpec :=
  { order := 3, width := -5, sheetName := "States",
    rules := [propertyRule .isEmpty .header 1, propertyRule .isPositive .column 5] }

/-- A declared column, a field that declares none, one that is excluded, and a column at the order of
the first one. -/
def mixedBindings : List Binding :=
  [{ name := "code", column := some { header := "Code", order := 3, width := 7 } },
    { name := "total" }, { name := "secret", column := some { exclude := true } },
    { name := "state", column := some stateColumn }]

/-- Two fields that declare nothing. -/
def plainBindings : List Binding := [{ name := "a" }, { name := "b" }]

/-- A field that declares no accessor, no styles and no rules is usable. -/
theorem Usable.of_noRules (accessor : b.column.bind ColumnSpec.accessor = none)
    (own : spec.headerStyle = none ∧ spec.columnStyle = none ∧ spec.mergeHeaderStyle = none)
    (shared : sheet.headerStyle = none ∧ sheet.columnStyle = none) (noRules : spec.rules = []) :
    Usable t sheet b spec :=
  .of_plain accessor own shared (by simp [noRules]) (by simp [noRules])

theorem exists_yields_mixed :
    ∃ columns c', Yields (extractColumns (countedType mixedBindings)) .empty
      ({ name := "Invoices", autoColumn := true }, columns) c' ∧
      columns.map headingOf = [("total", 2, ""), ("Code", 3, ""), ("state", 3, "")] := by
  have fields : exported true mixedBindings =
      [({ name := "code", column := some { header := "Code", order := 3, width := 7 } },
        { header := "Code", order := 3, width := 7 }),
        ({ name := "total" }, { header := "total", order := 2 }),
        ({ name := "state", column := some stateColumn }, stateColumn)] := rfl
  have usable : ∀ p ∈ exported true mixedBindings, Usable (countedType mixedBindings)
      { name := "Invoices", autoColumn := true } p.1 p.2 := by
    rw [fields, List.forall_mem_cons, List.forall_mem_cons, List.forall_mem_singleton]
    refine ⟨.of_noRules rfl ⟨rfl, rfl, rfl⟩ ⟨rfl, rfl⟩ rfl,
      .of_noRules rfl ⟨rfl, rfl, rfl⟩ ⟨rfl, rfl⟩ rfl,
      .of_plain rfl ⟨rfl, rfl, rfl⟩ ⟨rfl, rfl⟩ ?_ ?_⟩
    · simp only [stateColumn, List.forall_mem_cons, ofValue_propertyRule]
      exact ⟨⟨_, rfl⟩, ⟨_, rfl⟩, List.forall_mem_nil _⟩
    · simp only [stateColumn, List.forall_mem_cons]
      exact ⟨fun _ => ⟨_, rfl⟩, fun _ => ⟨_, rfl⟩, List.forall_mem_nil _⟩
  obtain ⟨columns, c', extracted, headings⟩ := exists_yields_extractColumns .empty
    (reads_countedType mixedBindings) usable (by rw [fields]; decide)
    (by rw [fields]; exact List.cons_ne_nil _ _)
  refine ⟨columns, c', extracted, headings.trans ?_⟩
  rw [fields]
  cbv

theorem exists_yields_plain :
    ∃ columns c', Yields (extractColumns (countedType plainBindings)) .empty
      ({ name := "Invoices", autoColumn := true }, columns) c' ∧ columns.length = 2 := by
  have fields : exported true plainBindings = [({ name := "a" }, { header := "a", order := 1 }),
      ({ name := "b" }, { header := "b", order := 2 })] := rfl
  have usable : ∀ p ∈ exported true plainBindings, Usable (countedType plainBindings)
      { name := "Invoices", autoColumn := true } p.1 p.2 := by
    rw [fields, List.forall_mem_cons, List.forall_mem_singleton]
    exact ⟨.of_noRules rfl ⟨rfl, rfl, rfl⟩ ⟨rfl, rfl⟩ rfl,
      .of_noRules rfl ⟨rfl, rfl, rfl⟩ ⟨rfl, rfl⟩ rfl⟩
  obtain ⟨columns, c', extracted, headings⟩ := exists_yields_extractColumns .empty
    (reads_countedType plainBindings) usable (by rw [fields]; decide)
    (by rw [fields]; exact List.cons_ne_nil _ _)
  refine ⟨columns, c', extracted, ?_⟩
  have same := congrArg List.length headings
  rwa [fields, List.length_map, List.length_mergeSort] at same

/-- The field that counts as the second column comes first; the others keep their order. Fields that
declare nothing count from one, and a type without fields has no columns. -/
theorem columns_of_extractColumns_sample :
    (∃ columns c', Yields (extractColumns (countedType mixedBindings)) .empty
      ({ name := "Invoices", autoColumn := true }, columns) c' ∧
      columns.map headingOf = [("total", 2, ""), ("Code", 3, ""), ("state", 3, "")] ∧
      ∀ column ∈ columns, (0 < column.width ∨ column.width = -1) ∧
        column.rules.Pairwise fun first later => later.priority ≤ first.priority) ∧
    (∃ columns c', Yields (extractColumns (countedType plainBindings)) .empty
      ({ name := "Invoices", autoColumn := true }, columns) c' ∧ columns.map Column.order = [1, 2]) ∧
    ∃ c', Fails (extractColumns (countedType [])) .empty (.noColumns "Invoice") c' := by
  refine ⟨?_, ?_, ?_⟩
  · obtain ⟨columns, c', extracted, headings⟩ := exists_yields_mixed
    obtain ⟨_, _, _, _, _, _, fits, _⟩ :=
      (columns_of_extractColumns .empty _).1 _ columns c' extracted
    exact ⟨columns, c', extracted, headings, fits⟩
  · obtain ⟨columns, c', extracted, length⟩ := exists_yields_plain
    obtain ⟨bindings, _, _, reads, _, _, _, counted⟩ :=
      (columns_of_extractColumns .empty _).1 _ columns c' extracted
    cases reads
    refine ⟨columns, c', extracted, ?_⟩
    rw [(counted (by simp [plainBindings])).2, length]
    rfl
  · exact ((columns_of_extractColumns .empty _).2 _ _ _ [] .empty (reads_countedType []) rfl
      "Invoice").mpr ⟨rfl, rfl⟩

/-! ### Splits -/

/-- **A sheet is split into the sheets that its columns go to.** Those of a record type are in
ascending order each, and their labels pass the check. -/
theorem split_partitions :
    (∀ s : Sheet, s.SplitsInto s.split) ∧
    ∀ t c s c', Yields (extract t) c s c' → ∀ p ∈ s.split,
      p.2.columns.Pairwise (·.order ≤ ·.order) ∧ checkMergeHeaders p.2.columns = .ok () := by
  refine ⟨Sheet.splitsInto_split, fun t c s c' extracted p isPart => ?_⟩
  have lasting : Lasting fun _ => True :=
    lasting_of (fun _ _ _ _ _ _ => trivial) fun _ _ _ _ _ => trivial
  have checked := ((lasting.extract t).of_yields trivial extracted).2
  exact ⟨sorted_of_mem_split checked isPart, checkMergeHeaders_of_mem_split checked isPart⟩

/-- The columns of both sheets are in ascending order and pass the check. -/
theorem split_partitions_sample :
    ∃ s c', Yields (extract (countedType mixedBindings)) .empty s c' ∧
      s.columns.map headingOf = [("total", 2, ""), ("Code", 3, ""), ("state", 3, "")] ∧
      ∀ p ∈ s.split, p.2.columns.Pairwise (·.order ≤ ·.order) ∧
        checkMergeHeaders p.2.columns = .ok () := by
  obtain ⟨columns, c', extracted, headings⟩ := exists_yields_mixed
  have sheet : Yields (extract (countedType mixedBindings)) .empty
      ⟨"Invoices", columns, true, none⟩ c' := extracted.bind (.pure _ _)
  exact ⟨_, c', sheet, headings, split_partitions.2 _ _ _ _ sheet⟩

end Catalog

end SheetExport
