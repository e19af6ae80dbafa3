/-
**Labels in prepared sheets.**

* `upholds_groupSheets_orderly` — every entry of a group has a sheet of ascending columns with
  contiguous labels, whatever the sources are and whether all of them are grouped;
* `MergedSheet.LabelsFit` — in the sheet of one entry, or of entries whose columns all have
  different orders, each label has one label cell; where orders collide, each entry has a block of
  columns, and each label of the block has one label cell that is over columns of the block;
* `labels_of_reachable`: the sheets of a record type have one label cell for each label, and the
  labels of prepared sheets fit.
-/

import SheetExport.Proofs.Catalog.Requests
import SheetExport.Proofs.Organize.Layout

namespace SheetExport

/-! ### Entries -/

/-- The columns of entries, one after the other. -/
def columnsOf (entries : List SheetEntry) : List Column := entries.flatMap (·.sheet.columns)

/-- Every entry of every group has an orderly sheet. -/
def SheetGroups.AllOrderly (groups : SheetGroups) : Prop :=
  ∀ g ∈ groups, ∀ entry ∈ g.2.entries, entry.sheet.Orderly

/-- Every entry of every group has contiguous labels. -/
def SheetGroups.AllContiguous (groups : SheetGroups) : Prop :=
  ∀ g ∈ groups, ∀ entry ∈ g.2.entries, Contiguous (labelsOf entry.sheet.columns)

theorem map_fst_entryColumns (entries : List SheetEntry) :
    (entryColumns entries).map Prod.fst = columnsOf entries := by
  have numbered : ((List.range entries.length).zip entries).map Prod.snd = entries :=
    List.map_snd_zip (by simp)
  rw [entryColumns, List.map_flatMap, columnsOf]
  conv_rhs => rw [← numbered, List.flatMap_map]
  refine List.flatMap_congr fun p _ => ?_
  rw [List.map_map]
  exact List.map_id _

theorem orders_entryColumns (entries : List SheetEntry) :
    (entryColumns entries).map (·.1.order) = (columnsOf entries).map Column.order := by
  rw [← map_fst_entryColumns, List.map_map]
  rfl

/-- An order is shared just when more than one column has it. -/
theorem mem_sharedOrdersOf_iff {columns : List (Column × Nat)} {order : Int} :
    order ∈ sharedOrdersOf columns ↔ 1 < (columns.map (·.1.order)).count order := by
  rw [sharedOrdersOf, (List.mergeSort_perm _ _).mem_iff, List.mem_filter, mem_distinct,
    decide_eq_true_eq]
  exact and_iff_right_of_imp fun twice => List.count_pos_iff.mp (Nat.zero_lt_of_lt twice)

/-- No order is shared just when all orders are different. -/
theorem isEmpty_sharedOrdersOf_iff (columns : List (Column × Nat)) :
    (sharedOrdersOf columns).isEmpty = true ↔ (columns.map (·.1.order)).Nodup := by
  rw [List.isEmpty_iff, List.eq_nil_iff_forall_not_mem, List.nodup_iff_count_le_one]
  exact forall_congr' fun order => (not_congr mem_sharedOrdersOf_iff).trans Nat.not_lt

namespace Workspace

/-! ### Grouping -/

/-- What a computation on the catalog keeps to, it keeps to in a workspace. -/
theorem upholds_onCatalog {α : Type} {I : Catalog → Prop} {Q : α → Prop} {x : CatalogM α}
    (upholds : Upholds I Q x) : Upholds (fun w : Workspace => I w.catalog) Q (onCatalog x) :=
  fun _ before => upholds before

/-- An operation on a stream does not touch the catalog. -/
theorem upholds_onStream {α : Type} {I : Catalog → Prop} (number : Nat)
    (operation : Stream Record → α × Stream Record) :
    Upholds (fun w : Workspace => I w.catalog) (fun _ => True) (onStream number operation) :=
  fun _ before => ⟨before, fun _ _ => trivial⟩

theorem upholds_addStream {I : Catalog → Prop} (s : Stream Record) (key : Option String) :
    Upholds (fun w : Workspace => I w.catalog) (fun _ => True) (addStream s key) :=
  fun _ before => ⟨before, fun _ _ => trivial⟩

theorem upholds_warn (w : Warning) :
    Upholds Catalog.Reachable (fun _ => True) (Catalog.warn w) :=
  .modify fun _ before => before.warned w

theorem upholds_describeSheets_reachable (t : RecordType) :
    Upholds Catalog.Reachable (fun s => ∀ p ∈ s.value, p.2.Orderly)
      (Catalog.describeSheets t) := by
  intro c before
  refine ⟨?_, fun s result p isPart => ?_⟩
  · rw [← Catalog.after_describeSheets]
    exact before.after _
  · obtain ⟨type, whole, checked, split⟩ :=
      (Catalog.upholds_describeSheets t (Catalog.checked_of_reachable before)).2 s result
    exact Catalog.orderly_of_mem_split checked (split ▸ isPart)

variable {groups : SheetGroups}

theorem upholds_addEntry (key name : String) {entry : SheetEntry}
    (orderly : groups.AllOrderly) (fits : entry.sheet.Orderly) :
    Upholds (fun w => w.catalog.Reachable) SheetGroups.AllOrderly
      (addEntry key groups name entry) := by
  unfold addEntry
  split
  · refine .pure fun g isGroup e member => ?_
    rcases List.mem_append.mp isGroup with known | new
    · exact orderly g known e member
    · cases List.mem_singleton.mp new
      cases List.mem_singleton.mp member
      exact fits
  · have added : SheetGroups.AllOrderly (groups.map fun p =>
        if p.1 = name then (p.1, { p.2 with entries := p.2.entries ++ [entry] }) else p) := by
      intro g isGroup e member
      obtain ⟨⟨n, old⟩, known, rfl⟩ := List.mem_map.mp isGroup
      dsimp only at member
      split at member
      · rcases List.mem_append.mp member with before | last
        · exact orderly _ known e before
        · cases List.mem_singleton.mp last
          exact fits
      · exact orderly _ known e member
    dsimp only
    split
    · exact .bind (upholds_onCatalog (upholds_warn _)) fun _ _ => .pure added
    · exact .pure added

theorem upholds_firstRecord {I : Catalog → Prop} (key : String) (number : Nat) :
    Upholds (fun w => I w.catalog) (fun _ => True) (firstRecord key number) := by
  refine .bind (upholds_onStream number _) fun outcome _ => ?_
  split
  · exact .pure trivial
  · exact .throw _
  · exact .throw _

theorem upholds_streamsFor {I : Catalog → Prop} (number : Nat) (sheets : List (String × Sheet)) :
    Upholds (fun w => I w.catalog) (fun _ => True) (streamsFor number sheets) := by
  unfold streamsFor
  split
  · exact .pure trivial
  · refine .bind (upholds_onStream number _) fun outcome _ => ?_
    split
    · exact .throw _
    · exact (Upholds.mapM fun _ _ => upholds_addStream _ _).weaken fun _ _ => trivial

/-- A source adds entries with orderly sheets. -/
theorem upholds_addSource (key : String) (number : Nat) (orderly : groups.AllOrderly) :
    Upholds (fun w => w.catalog.Reachable) SheetGroups.AllOrderly
      (addSource groups key number) := by
  refine .bind (upholds_firstRecord key number) fun first _ => ?_
  refine .bind (upholds_onCatalog (upholds_describeSheets_reachable _)) fun described fits => ?_
  refine .bind (upholds_streamsFor number _) fun numbers _ => ?_
  refine .foldlM orderly fun groups orderly pair member => ?_
  exact upholds_addEntry _ _ orderly (fits pair.1 (List.of_mem_zip member).1)

/-- **Grouping sources gives entries with orderly sheets**, whatever the sources are. -/
theorem upholds_groupSheets_orderly (sources : List (String × Nat)) :
    Upholds (fun w => w.catalog.Reachable) SheetGroups.AllOrderly (groupSheets sources) := by
  refine .foldlM (fun g isGroup => by cases isGroup) fun groups orderly source _ => ?_
  exact upholds_addSource _ _ orderly

theorem upholds_groupSheets (sources : List (String × Nat)) :
    Upholds (fun w => w.catalog.Reachable) SheetGroups.AllContiguous (groupSheets sources) :=
  (upholds_groupSheets_orderly sources).weaken fun _ orderly g isGroup entry member =>
    (orderly g isGroup entry member).labels

end Workspace

/-! ### Merging -/

/-- Labels in a sheet of one entry, or of several. -/
structure MergedSheet.LabelsFit (m : MergedSheet) : Prop where
  /-- The sheet of one entry, or of columns of different orders, has one label cell for each of its
  labels. -/
  apart : m.entries.length = 1 ∨ ((columnsOf m.entries).map Column.order).Nodup →
    LabelledOnce m.sheet.columns
  /-- Where orders collide, the columns of each entry are a block, and each label of the block has
  one label cell there. -/
  inTurn : m.entries.length ≠ 1 → ¬ ((columnsOf m.entries).map Column.order).Nodup →
    ∀ earlier entry later, m.entries = earlier ++ entry :: later →
      m.sheet.columns = columnsOf earlier ++ entry.sheet.columns ++ columnsOf later ∧
        LabelledOnceWithin (columnsOf earlier) entry.sheet.columns (columnsOf later)

section Fits

variable {m : MergedSheet}

theorem labelsFit_of_single (one : m.entries.length = 1) (labels : LabelledOnce m.sheet.columns) :
    m.LabelsFit :=
  ⟨fun _ => labels, fun several => absurd one several⟩

theorem labelsFit_of_apart (apart : ((columnsOf m.entries).map Column.order).Nodup)
    (labels : LabelledOnce m.sheet.columns) : m.LabelsFit :=
  ⟨fun _ => labels, fun _ collide => absurd apart collide⟩

/-- The columns of colliding entries stand one entry after the other. -/
theorem labelsFit_of_collision (several : m.entries.length ≠ 1)
    (collide : ¬ ((columnsOf m.entries).map Column.order).Nodup)
    (inTurn : m.sheet.columns = columnsOf m.entries)
    (fits : ∀ entry ∈ m.entries, Contiguous (labelsOf entry.sheet.columns)) : m.LabelsFit := by
  refine ⟨fun either => ?_, fun _ _ earlier entry later same => ?_⟩
  · rcases either with one | apart
    · exact absurd one several
    · exact absurd apart collide
  · have member : entry ∈ m.entries := by simp [same]
    refine ⟨?_, labelledOnceWithin _ _ (fits entry member)⟩
    rw [inTurn, same]
    simp [columnsOf]

end Fits

namespace Workspace

theorem upholds_newReading :
    Upholds (fun w => w.catalog.Reachable) (fun _ => True) newReading :=
  fun _ before => ⟨before, fun _ _ => trivial⟩

theorem upholds_merge (name : String) (order : Option Int) {entries : List SheetEntry}
    (strict : Bool) (fits : ∀ entry ∈ entries, Contiguous (labelsOf entry.sheet.columns)) :
    Upholds (fun w => w.catalog.Reachable) MergedSheet.LabelsFit
      (merge name order entries strict) := by
  unfold merge
  split
  · exact .throw _
  · rename_i only
    refine .bind upholds_newReading fun reading _ => .pure ?_
    exact labelsFit_of_single rfl (labelledOnce (fits only List.mem_cons_self))
  · rename_i first rest several
    have distinct := isEmpty_sharedOrdersOf_iff (entryColumns (first :: rest))
    rw [orders_entryColumns] at distinct
    have several : (first :: rest).length ≠ 1 := by
      intro one
      exact several (List.eq_nil_of_length_eq_zero (by simpa using one))
    have assembled : ∀ arranged : List (Column × Nat),
        (∀ reading, MergedSheet.LabelsFit
          ⟨⟨name, arranged.map Prod.fst, first.sheet.hasHeader, order⟩, first :: rest,
            arranged.map Prod.snd, reading⟩) →
        Upholds (fun w => w.catalog.Reachable) MergedSheet.LabelsFit (do
          let reading ← newReading
          return MergedSheet.mk ⟨name, arranged.map Prod.fst, first.sheet.hasHeader, order⟩
            (first :: rest) (arranged.map Prod.snd) reading) :=
      fun arranged labelsFit => .bind upholds_newReading fun reading _ => .pure (labelsFit reading)
    dsimp only
    split
    · rename_i apart
      have sorted := pairwise_mergeSort_by (·.1.order) (entryColumns (first :: rest))
      split
      · exact .throw_bind _ _
      · rename_i checked
        refine .bind (.pure rfl) fun arranged same => ?_
        subst same
        refine assembled _ fun reading => labelsFit_of_apart (distinct.mp apart) ?_
        exact labelledOnce (contiguous_of_checkMergeHeaders (List.pairwise_map.mpr sorted) checked)
    · rename_i collide
      split
      · exact .throw_bind _ _
      · refine .bind (upholds_onCatalog (upholds_warn _)) fun _ _ => ?_
        refine .bind (.pure rfl) fun arranged same => ?_
        subst same
        refine assembled _ fun reading => ?_
        exact labelsFit_of_collision several (mt distinct.mpr collide)
          (map_fst_entryColumns (first :: rest)) fits

theorem upholds_prepareSheets (sources : List (String × Nat)) (strict : Bool) :
    Upholds (fun w => w.catalog.Reachable) (fun sheets => ∀ m ∈ sheets, m.LabelsFit)
      (prepareSheets sources strict) := by
  refine .bind (upholds_groupSheets sources) fun groups contiguous => ?_
  split
  · exact .throw _
  · rename_i ordered sorted
    refine .mapM fun group isGroup => upholds_merge _ _ strict ?_
    exact contiguous group ((perm_of_orderSheets sorted).mem_iff.mp isGroup)

/-- **Each label has one label cell, over the columns that declare it**: in the sheets of a record
type, which there are if its columns can be extracted, and in every prepared sheet as far as the
orders of its columns are different. -/
theorem labels_of_reachable {w : Workspace} (reachable : w.catalog.Reachable) :
    (∀ t sheet c, Yields (Catalog.extract t) w.catalog sheet c →
      ∃ described c', Yields (Catalog.describeSheets t) w.catalog described c') ∧
    (∀ t described c, Yields (Catalog.describeSheets t) w.catalog described c →
      ∀ p ∈ described.value, LabelledOnce p.2.columns) ∧
    ∀ sources strict sheets w', Yields (prepareSheets sources strict) w sheets w' →
      ∀ m ∈ sheets, m.LabelsFit := by
  refine ⟨fun t sheet c extracted => ?_, fun t described c describes p isSheet => ?_, ?_⟩
  · exact Catalog.exists_yields_describeSheets extracted
  · have orderly := (upholds_describeSheets_reachable t).of_yields reachable describes
    exact labelledOnce (orderly.2 p isSheet).labels
  · intro sources strict sheets w' prepared
    exact ((upholds_prepareSheets sources strict).of_yields reachable prepared).2

/-! ### Two sources with columns of one order -/

/-- The declaration of a labelled column, which shows whole records. -/
def labelledColumn : ColumnSpec :=
  { header := "Total", order := 1, mergeHeader := "Sums", accessor := some .display }

/-- A type with this column. -/
def labelledType : RecordType :=
  { RecordType.ofName "Invoice" with
    source := .schema ⟨some { name := "Invoices" },
      [{ name := "total", column := some labelledColumn }]⟩ }

/-- Two sources of records of the type. -/
def labelledWorkspace : Workspace :=
  { Workspace.empty with
    supplies := [⟨.ofList [.object labelledType [("total", .int 1)]], none⟩,
      ⟨.ofList [.object labelledType [("total", .int 2)]], none⟩] }

/-- The columns of both sources stand side by side, and each has its label. -/
theorem labels_of_reachable_sample :
    ∃ sheets w',
      Yields (prepareSheets [("paid", 0), ("due", 1)] false) labelledWorkspace sheets w' ∧
        ∀ m ∈ sheets, m.LabelsFit := by
  have succeeds : ((prepareSheets [("paid", 0), ("due", 1)] false).run.run
      labelledWorkspace).1.isOk = true := by decide +kernel
  have reachable : labelledWorkspace.catalog.Reachable := .empty
  cases outcome : (prepareSheets [("paid", 0), ("due", 1)] false).run.run labelledWorkspace with
  | mk result w' =>
    rw [outcome] at succeeds
    cases result with
    | error e => cases succeeds
    | ok sheets => exact ⟨sheets, w', outcome, (labels_of_reachable reachable).2.2 _ _ _ _ outcome⟩

end Workspace

end SheetExport
