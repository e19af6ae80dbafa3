/-
**Requests to a catalog, and the catalogs that they lead to.**

* `Request` — describing a record type, its sheets, compiling a condition, or forgetting everything,
  with `Request.answer` as the computation that serves it;
* `Reachable` — catalogs that come from an empty one by requests, uses of styles and warnings;
* `KeepsChecked`, `checked_of_reachable` — in these, what is kept for a text is the condition that
  it writes, and what is kept for a record type is a checked sheet and its split;
* `contiguous_of_reachable`: every sheet that is kept, and every sheet that columns are split to,
  has contiguous labels.
-/

import SheetExport.Proofs.Catalog.Keeping
import SheetExport.Proofs.Sheet.Splitting

namespace SheetExport

/-- The columns are in ascending order, and columns of one label stand next to each other. -/
structure Sheet.Orderly (s : Sheet) : Prop where
  sorted : s.columns.Pairwise (·.order ≤ ·.order)
  labels : Contiguous (labelsOf s.columns)

namespace Catalog

/-! ### Requests -/

/-- What a catalog can be asked for. -/
inductive Request
  | describe (t : RecordType)
  | describeSheets (t : RecordType)
  | compile (v : Value)
  | clear

/-- What a request is answered with. -/
inductive Answer
  | sheet (sheet : Stamped Sheet)
  | sheets (sheets : Stamped (List (String × Sheet)))
  | condition (condition : Stamped Condition)
  | cleared

/-- Serves a request. -/
def Request.answer : Request → CatalogM Answer
  | describe t => return .sheet (← Catalog.describe t)
  | describeSheets t => return .sheets (← Catalog.describeSheets t)
  | compile v => return .condition (← Catalog.compile v)
  | clear => do
    modify Catalog.clear
    return .cleared

/-- The catalog after a request, whether it succeeds or fails. -/
def after (c : Catalog) (r : Request) : Catalog := (r.answer.run.run c).2

/-- The catalogs that requests, uses of styles and warnings lead to from an empty one. -/
inductive Reachable : Catalog → Prop
  | empty : Reachable .empty
  | after {c : Catalog} (before : Reachable c) (r : Request) : Reachable (c.after r)
  | styled {c : Catalog} (before : Reachable c) (k : StyleClass) :
    Reachable ((style k).run.run c).2
  | warned {c : Catalog} (before : Reachable c) (w : Warning) :
    Reachable { c with warnings := c.warnings ++ [w] }

theorem after_describeSheets (c : Catalog) (t : RecordType) :
    c.after (.describeSheets t) = ((Catalog.describeSheets t).run.run c).2 := by
  unfold after Request.answer
  rw [run_run_bind]
  cases (Catalog.describeSheets t).run.run c with
  | mk result c' => cases result <;> rfl

/-- A record type has sheets if its columns can be extracted. -/
theorem exists_yields_describeSheets {t : RecordType} {c c' : Catalog} {sheet : Sheet}
    (extracted : Yields (extract t) c sheet c') :
    ∃ described c'', Yields (Catalog.describeSheets t) c described c'' := by
  have makes : Yields (do stamp (← extract t)) c ⟨c'.nextStamp, sheet⟩
      { c' with nextStamp := c'.nextStamp + 1 } := extracted.bind rfl
  obtain ⟨kept, c₁, describes⟩ := exists_yields_once sheetShelf t.key makes
  exact exists_yields_once splitShelf t.key (describes.bind rfl)

/-! ### What is kept -/

/-- What is kept under a text is the condition that the text writes; a sheet that is kept was
checked, and a split is that of a checked sheet. -/
structure KeepsChecked (c : Catalog) : Prop where
  conditions : ∀ source k, c.conditions.get? source = some k → Condition.parse source = .ok k.value
  sheets : ∀ key s, c.sheets.get? key = some s → ∃ type, Checked type s.value
  splits : ∀ key s, c.splits.get? key = some s →
    ∃ type whole, Checked type whole ∧ s.value = whole.split

theorem keepsChecked_empty : KeepsChecked .empty :=
  ⟨fun _ _ found => (Option.some_ne_none _ found.symm).elim,
    fun _ _ found => (Option.some_ne_none _ found.symm).elim,
    fun _ _ found => (Option.some_ne_none _ found.symm).elim⟩

/-- Styles, numbers and warnings do not matter. -/
theorem KeepsChecked.congr {c c' : Catalog} (keeps : KeepsChecked c)
    (conditions : c'.conditions = c.conditions) (sheets : c'.sheets = c.sheets)
    (splits : c'.splits = c.splits) : KeepsChecked c' := by
  constructor
  · rw [conditions]
    exact keeps.conditions
  · rw [sheets]
    exact keeps.sheets
  · rw [splits]
    exact keeps.splits

theorem lasting_keepsChecked : Lasting KeepsChecked := by
  refine lasting_of (fun c _ _ _ _ before => before.congr rfl rfl rfl) ?_
  intro c source k before written
  refine ⟨fun source' k' found => ?_, before.sheets, before.splits⟩
  rcases Cache.of_get?_publish found with kept | ⟨rfl, rfl⟩
  · exact before.conditions source' k' kept
  · exact written

/-- A stamp is the only thing that changes. -/
theorem upholds_stamp {α : Type} {Q : α → Prop} {a : α} (holds : Q a) :
    Upholds KeepsChecked (fun s => Q s.value) (stamp a) := by
  intro c before
  refine ⟨before.congr rfl rfl rfl, fun s result => ?_⟩
  cases result
  exact holds

theorem upholds_describe (t : RecordType) :
    Upholds KeepsChecked (fun s => ∃ type, Checked type s.value) (describe t) := by
  have makes : Upholds KeepsChecked (fun s => ∃ type, Checked type s.value)
      (do stamp (← extract t)) :=
    .bind (lasting_keepsChecked.extract t) fun s checked =>
      upholds_stamp (Q := fun s => ∃ type, Checked type s) ⟨_, checked⟩
  refine upholds_once (fun c before s found => before.sheets _ s found) makes (fun _ => id) ?_
  intro c s before checked
  refine ⟨before.conditions, fun k b found => ?_, before.splits⟩
  rcases Cache.of_get?_publish found with kept | ⟨_, rfl⟩
  · exact before.sheets k b kept
  · exact checked

/-- **The sheets of a record type are the split of a checked sheet**, made now or kept. -/
theorem upholds_describeSheets (t : RecordType) :
    Upholds KeepsChecked (fun s => ∃ type whole, Checked type whole ∧ s.value = whole.split)
      (describeSheets t) := by
  have makes : Upholds KeepsChecked
      (fun s => ∃ type whole, Checked type whole ∧ s.value = whole.split)
      (do let sheet ← describe t; stamp sheet.value.split) :=
    .bind (upholds_describe t) fun s ⟨type, checked⟩ =>
      upholds_stamp (Q := fun p => ∃ type whole, Checked type whole ∧ p = whole.split)
        ⟨type, s.value, checked, rfl⟩
  refine upholds_once (fun c before s found => before.splits _ s found) makes (fun _ => id) ?_
  intro c s before split
  refine ⟨before.conditions, before.sheets, fun k b found => ?_⟩
  rcases Cache.of_get?_publish found with kept | ⟨_, rfl⟩
  · exact before.splits k b kept
  · exact split

/-- One request keeps to it. -/
theorem upholds_answer (r : Request) : Upholds KeepsChecked (fun _ => True) r.answer := by
  cases r with
  | describe t => exact .bind (upholds_describe t) fun _ _ => .pure trivial
  | describeSheets t => exact .bind (upholds_describeSheets t) fun _ _ => .pure trivial
  | compile v => exact .bind (lasting_keepsChecked.compile v) fun _ _ => .pure trivial
  | clear =>
    refine .bind (.modify fun _ _ => ?_) fun _ _ => .pure trivial
    exact ⟨keepsChecked_empty.conditions, keepsChecked_empty.sheets, keepsChecked_empty.splits⟩

/-- **Whatever was requested, what is kept is what its key stands for.** -/
theorem checked_of_reachable {c : Catalog} (reachable : Reachable c) : KeepsChecked c := by
  induction reachable with
  | empty => exact keepsChecked_empty
  | after _ r ih => exact (upholds_answer r).after ih
  | styled _ k ih => exact (lasting_keepsChecked.style k).after ih
  | warned _ w ih => exact ih.congr rfl rfl rfl

/-! ### The parts of a sheet -/

section Parts

variable {type : String} {s : Sheet} {p : String × Sheet} (checked : Checked type s)
  (isPart : p ∈ s.split)

include checked isPart

/-- The columns of a part stay in ascending order. -/
theorem sorted_of_mem_split : p.2.columns.Pairwise (·.order ≤ ·.order) := by
  rw [(Sheet.splitsInto_split s).columns p isPart]
  exact checked.sorted.sublist List.filter_sublist

/-- The columns of a part were checked as those of one sheet. -/
theorem checkMergeHeaders_of_mem_split : checkMergeHeaders p.2.columns = .ok () := by
  obtain ⟨columns, isGroup, same⟩ := Sheet.exists_group_of_mem_split isPart
  have passes := forM_eq_ok_iff.mp checked.labels (p.1, columns) isGroup
  rw [same]
  dsimp only at passes ⊢
  cases outcome : checkMergeHeaders columns with
  | ok done => rfl
  | error gap =>
    rw [outcome] at passes
    cases passes

/-- The parts of a sheet that was checked are orderly. -/
theorem orderly_of_mem_split : p.2.Orderly :=
  have sorted := sorted_of_mem_split checked isPart
  ⟨sorted, contiguous_of_checkMergeHeaders sorted (checkMergeHeaders_of_mem_split checked isPart)⟩

end Parts

/-- All these sheets have contiguous labels. -/
def AllContiguous (sheets : List (String × Sheet)) : Prop :=
  ∀ p ∈ sheets, Contiguous (labelsOf p.2.columns)

/-- What is kept has contiguous labels. -/
structure KeepsContiguous (c : Catalog) : Prop where
  sheets : ∀ key s, c.sheets.get? key = some s → AllContiguous s.value.split
  splits : ∀ key s, c.splits.get? key = some s → AllContiguous s.value

/-- **Whatever was requested, labels are contiguous in what is kept.** -/
theorem contiguous_of_reachable {c : Catalog} (reachable : Reachable c) : KeepsContiguous c := by
  have keeps := checked_of_reachable reachable
  refine ⟨fun key s found p isPart => ?_, fun key s found p isPart => ?_⟩
  · obtain ⟨type, checked⟩ := keeps.sheets key s found
    exact (orderly_of_mem_split checked isPart).labels
  · obtain ⟨type, whole, checked, split⟩ := keeps.splits key s found
    exact (orderly_of_mem_split checked (split ▸ isPart)).labels

end Catalog

end SheetExport
