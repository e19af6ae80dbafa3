/-
**What resolving a record type keeps.**

* `upholds_once` — a shelf is read or gets one more entry; the invariant has to be kept by these;
* `Lasting I` — what using styles, compiling conditions and warning of unresolved types keep to
  (`lasting_of_parts`, `lasting_of`);
* `Lasting.extract` — extracting a sheet keeps to what lasts, whether it succeeds or fails, and a
  sheet that was extracted is `Checked`: in ascending order, its labels without gap;
* `lasting_shows`: extracting a sheet touches neither sheets nor splits.
-/

import SheetExport.Catalog.Describe
import SheetExport.Proofs.Cache
import SheetExport.Proofs.Sheet.Labels
import SheetExport.Proofs.Upholding

namespace SheetExport

namespace Catalog

/-! ### Shelves -/

section Shelves

variable {κ β : Type} [DecidableEq κ] {shelf : Shelf κ β} {key : κ} {make : CatalogM β}
  {I : Catalog → Prop} {P Q : β → Prop}

/-- A shelf gives what it keeps; else what is made is put there, unless something was put there for
the key meanwhile. -/
theorem run_once (shelf : Shelf κ β) (key : κ) (make : CatalogM β) (c : Catalog) :
    (once shelf key make).run.run c =
      match (shelf.read c).get? key with
      | some kept => (.ok kept, c)
      | none =>
        match make.run.run c with
        | (.error e, c') => (.error e, c')
        | (.ok made, c') =>
          (.ok (((shelf.read c').get? key).getD made),
            shelf.write ((shelf.read c').publish key made).2 c') := by
  have reads : (get : CatalogM Catalog).run.run c = (.ok c, c) := rfl
  unfold once
  rw [run_run_bind, reads]
  dsimp only
  cases (shelf.read c).get? key with
  | some kept => rfl
  | none =>
    dsimp only
    rw [run_run_bind]
    cases make.run.run c with
    | mk result c' =>
      cases result with
      | error e => rfl
      | ok made =>
        dsimp only
        rw [← Cache.fst_publish]
        rfl

theorem yields_once_kept {c : Catalog} {b : β} (found : (shelf.read c).get? key = some b) :
    Yields (once shelf key make) c b c := by
  unfold Yields
  rw [run_once, found]

theorem yields_once_made {c c' : Catalog} {made : β} (missing : (shelf.read c).get? key = none)
    (makes : Yields make c made c') (still : (shelf.read c').get? key = none) :
    Yields (once shelf key make) c made (shelf.write ((shelf.read c').publish key made).2 c') := by
  unfold Yields at *
  rw [run_once, missing, makes]
  dsimp only
  rw [still]
  rfl

theorem fails_once {c c' : Catalog} {e : Failure} (missing : (shelf.read c).get? key = none)
    (fails : Fails make c e c') : Fails (once shelf key make) c e c' := by
  unfold Fails at *
  rw [run_once, missing, fails]

/-- A shelf gives something for a key if it can be made. -/
theorem exists_yields_once (shelf : Shelf κ β) (key : κ) {c c' : Catalog} {made : β}
    (makes : Yields make c made c') : ∃ kept c'', Yields (once shelf key make) c kept c'' := by
  cases found : (shelf.read c).get? key with
  | some kept => exact ⟨kept, c, yields_once_kept found⟩
  | none =>
    unfold Yields at *
    rw [run_once, found, makes]
    exact ⟨_, _, rfl⟩

/-- Reading a shelf, or making what it lacks, keeps to an invariant that making keeps to. -/
theorem upholds_once (kept : ∀ c, I c → ∀ b, (shelf.read c).get? key = some b → Q b)
    (makes : Upholds I P make) (fits : ∀ b, P b → Q b)
    (puts : ∀ c b, I c → P b → I (shelf.write ((shelf.read c).publish key b).2 c)) :
    Upholds I Q (once shelf key make) := by
  intro c before
  rw [run_once]
  split
  · rename_i b found
    refine ⟨before, fun a result => ?_⟩
    cases result
    exact kept c before b found
  · have after := makes before
    split
    · rename_i failed
      rw [failed] at after
      exact ⟨after.1, fun a result => by cases result⟩
    · rename_i b c' succeeds
      rw [succeeds] at after
      have isMade := after.2 b rfl
      refine ⟨puts c' b after.1 isMade, fun a result => ?_⟩
      cases result
      cases found : (shelf.read c').get? key with
      | none => exact fits b isMade
      | some first => exact kept c' after.1 first found

end Shelves

/-! ### Making styles and conditions -/

section Making

variable {I : Catalog → Prop}

/-- Making a style configures it once more, and touches only attempts and stamps. -/
theorem run_makeStyle (k : StyleClass) (c : Catalog) :
    ∃ attempt attempts, (makeStyle k).run.run c =
      match k.configure (attempt + 1) with
      | .error defect => (.error (.style defect), { c with attempts })
      | .ok spec =>
        (.ok ⟨c.nextStamp, k.name, spec⟩, { c with attempts, nextStamp := c.nextStamp + 1 }) := by
  let attempt := (c.attempts.lookup k.key).getD 0 + 1
  let attempts := (k.key, attempt) :: c.attempts.filter (·.1 ≠ k.key)
  refine ⟨(c.attempts.lookup k.key).getD 0, attempts, ?_⟩
  show (ExceptT.run (match k.configure attempt with
    | .error defect => throw (.style defect)
    | .ok spec => do
      let made ← stamp spec
      return ⟨made.stamp, k.name, spec⟩ : CatalogM Style)).run { c with attempts } = _
  cases k.configure attempt <;> rfl

/-- A text writes the condition that it is parsed to. -/
theorem ofValue_eq_ok_iff {v : Value} {source : String} (text : v.textual? = some source)
    {k : Condition} : Condition.ofValue v = .ok k ↔ Condition.parse source = .ok k := by
  unfold Condition.ofValue
  rw [text]
  dsimp only
  cases Condition.parse source with
  | error e => simp [Except.mapError]
  | ok k' => simp [Except.mapError]

theorem run_compileAnew (v : Value) (c : Catalog) :
    (compileAnew v).run.run c =
      match Condition.ofValue v with
      | .error e => (.error e, c)
      | .ok k => (.ok ⟨c.nextStamp, k⟩, { c with nextStamp := c.nextStamp + 1 }) := by
  unfold compileAnew
  cases Condition.ofValue v <;> rfl

/-- Making a style keeps to what does not depend on attempts and stamps. -/
theorem upholds_makeStyle
    (counts : ∀ c attempts nextStamp, I c → I { c with attempts, nextStamp }) (k : StyleClass) :
    Upholds I (fun _ => True) (makeStyle k) := by
  intro c before
  obtain ⟨attempt, attempts, made⟩ := run_makeStyle k c
  rw [made]
  cases k.configure (attempt + 1) with
  | error defect => exact ⟨counts c attempts c.nextStamp before, fun _ _ => trivial⟩
  | ok spec => exact ⟨counts c attempts (c.nextStamp + 1) before, fun _ _ => trivial⟩

theorem upholds_compileAnew (stamps : ∀ c nextStamp, I c → I { c with nextStamp }) (v : Value) :
    Upholds I (fun k => Condition.ofValue v = .ok k.value) (compileAnew v) := by
  intro c before
  rw [run_compileAnew]
  cases Condition.ofValue v with
  | error e => exact ⟨before, fun k result => by cases result⟩
  | ok condition =>
    refine ⟨stamps c _ before, fun k result => ?_⟩
    cases result
    rfl

/-- Using styles, compiling conditions and warning of unresolved types keep to the invariant. -/
structure Lasting (I : Catalog → Prop) : Prop where
  style (k : StyleClass) : Upholds I (fun _ => True) (style k)
  compile (v : Value) : Upholds I (fun _ => True) (compile v)
  warn (type : String) (defect : Annotation.Defect) :
    Upholds I (fun _ => True) (warn (.unresolvedTypes type defect))

/-- What does not depend on styles and numbers lasts if it stays with every condition that is put
under its text, and with every warning of unresolved types. -/
theorem lasting_of_parts
    (rest : ∀ c styles attempts nextStamp, I c → I { c with styles, attempts, nextStamp })
    (warnings : ∀ c type defect, I c →
      I { c with warnings := c.warnings ++ [.unresolvedTypes type defect] })
    (conditions : ∀ c source k, I c → Condition.parse source = .ok k.value →
      I (conditionShelf.write ((conditionShelf.read c).publish source k).2 c)) : Lasting I where
  style k := by
    refine upholds_once (P := fun _ => True) (fun _ _ _ _ => trivial) ?_ (fun _ => id) ?_
    · exact upholds_makeStyle (fun c attempts nextStamp => rest c c.styles attempts nextStamp) k
    · exact fun c s before _ => rest c _ c.attempts c.nextStamp before
  compile v := by
    have anew := upholds_compileAnew
      (fun c nextStamp => rest c c.styles c.attempts nextStamp) v
    unfold Catalog.compile
    split
    · exact .throw _
    · split
      · rename_i source text
        refine upholds_once (fun _ _ _ _ => trivial) anew (fun _ _ => trivial) fun c k before => ?_
        exact fun written => conditions c source k before ((ofValue_eq_ok_iff text).mp written)
      · exact anew.weaken fun _ _ => trivial
  warn type defect := .modify fun c => warnings c type defect

/-- What does not depend on styles, numbers and warnings lasts if it stays with every condition that
is put under its text. -/
theorem lasting_of
    (rest : ∀ c styles attempts nextStamp warnings, I c →
      I { c with styles, attempts, nextStamp, warnings })
    (conditions : ∀ c source k, I c → Condition.parse source = .ok k.value →
      I (conditionShelf.write ((conditionShelf.read c).publish source k).2 c)) : Lasting I :=
  lasting_of_parts (fun c styles attempts nextStamp => rest c styles attempts nextStamp c.warnings)
    (fun c _ _ => rest c c.styles c.attempts c.nextStamp _) conditions

end Making

/-! ### Resolving a record type -/

section Resolving

variable {α : Type} {x : CatalogM α} {I : Catalog → Prop} {Q : α → Prop}

/-- A note changes a failure only. -/
theorem run_noting (note : String) (x : CatalogM α) (c : Catalog) :
    (noting note x).run.run c =
      match x.run.run c with
      | (.ok a, c') => (.ok a, c')
      | (.error failure, c') => (.error (failure.addNote note), c') := by
  unfold noting
  cases outcome : x.run.run c with
  | mk result c' =>
    simp only [tryCatch, tryCatchThe, MonadExceptOf.tryCatch, ExceptT.tryCatch, ExceptT.mk,
      ExceptT.run, StateT.run, bind, StateT.bind] at outcome ⊢
    rw [outcome]
    cases result <;> rfl

theorem upholds_noting (upholds : Upholds I Q x) (note : String) : Upholds I Q (noting note x) := by
  intro c before
  have after := upholds before
  rw [run_noting]
  split
  · rename_i same
    rw [same] at after
    exact after
  · rename_i same
    rw [same] at after
    exact ⟨after.1, fun a result => by cases result⟩

/-- The columns are in ascending order, and those that go to one sheet pass the check of labels. -/
structure Checked (type : String) (s : Sheet) : Prop where
  sorted : s.columns.Pairwise (·.order ≤ ·.order)
  labels : checkLabels type s.name s.columns = .ok ()

/-- A check of labels that fails has found a gap. -/
theorem exists_gap_of_checkLabels {type sheet : String} {columns : List Column} {failure : Failure}
    (failed : checkLabels type sheet columns = .error failure) :
    ∃ owner gap, failure = .mergeHeader owner gap := by
  obtain ⟨⟨name, members⟩, _, refused⟩ := exists_of_forM_eq_error failed
  dsimp only at refused
  cases outcome : checkMergeHeaders members with
  | ok done =>
    rw [outcome] at refused
    cases refused
  | error gap =>
    rw [outcome] at refused
    cases refused
    exact ⟨_, gap, rfl⟩

theorem pairwise_sortColumns (columns : List Column) :
    (sortColumns columns).Pairwise (·.order ≤ ·.order) := pairwise_mergeSort_by Column.order columns

namespace Lasting

variable (lasting : Lasting I)

include lasting

theorem headerStyle (column : Option ColumnSpec) (sheet : SheetSpec) :
    Upholds I (fun _ => True) (headerStyle column sheet) := by
  unfold Catalog.headerStyle
  split <;> exact lasting.style _

theorem columnStyle (column : Option ColumnSpec) (sheet : SheetSpec) (kind : FieldKind) :
    Upholds I (fun _ => True) (columnStyle column sheet kind) := by
  unfold Catalog.columnStyle
  split <;> exact lasting.style _

theorem mergeHeaderStyle (column : Option ColumnSpec) (sheet : SheetSpec) :
    Upholds I (fun _ => True) (mergeHeaderStyle column sheet) := by
  unfold Catalog.mergeHeaderStyle
  split
  · exact lasting.style _
  · exact lasting.headerStyle _ _

theorem compileRules (specs : List RuleSpec) :
    Upholds I (fun _ => True) (compileRules Catalog.compile specs) := by
  unfold Catalog.compileRules
  refine .bind (.mapM (R := fun _ => True) fun spec _ => ?_) fun _ _ => .pure trivial
  refine .bind (lasting.compile _) fun _ _ => ?_
  exact .bind (lasting.style _) fun _ _ => .pure trivial

theorem resolveBindings (t : RecordType) : Upholds I (fun _ => True) (resolveBindings t) := by
  unfold Catalog.resolveBindings
  split
  · exact .pure trivial
  · split
    · exact .throw_bind _ _
    · exact .bind (lasting.warn _ _) fun _ _ => .pure trivial

theorem readSheet (t : RecordType) : Upholds I (fun _ => True) (readSheet t) := by
  unfold Catalog.readSheet readSchema
  refine .bind (P := fun _ => True) ?_ fun schema _ => ?_
  · split
    · exact .throw _
    · split <;> exact .throw _
    · exact .pure trivial
    · exact .bind (lasting.resolveBindings t) fun _ _ => .pure trivial
  · split
    · exact .pure trivial
    · exact .throw _

theorem makeColumn (t : RecordType) (sheet : SheetSpec) (b : Binding) (spec : ColumnSpec) :
    Upholds I (fun _ => True) (makeColumn t sheet b spec) := by
  unfold Catalog.makeColumn
  dsimp only
  split
  · exact .throw _
  · refine .bind (lasting.columnStyle _ _ _) fun _ _ => ?_
    refine .bind (upholds_noting (lasting.compileRules _) _) fun _ _ => ?_
    refine .bind (lasting.headerStyle _ _) fun _ _ => ?_
    exact .bind (lasting.mergeHeaderStyle _ _) fun _ _ => .pure trivial

/-- **Extracting a sheet keeps to what lasts**, and the sheet is checked. -/
theorem extract (t : RecordType) : Upholds I (Checked t.title) (extract t) := by
  have columns : Upholds I (fun p => Checked t.title
      ⟨p.1.name, p.2, p.1.hasHeader, p.1.order⟩) (extractColumns t) := by
    unfold extractColumns
    refine .bind (lasting.readSheet t) fun p _ => ?_
    obtain ⟨sheet, bindings⟩ := p
    refine .bind (.mapM fun _ _ => lasting.makeColumn t sheet _ _) fun made _ => ?_
    dsimp only
    split
    · exact .throw_bind _ _
    · split
      · exact .throw _
      · rename_i checked
        exact .pure ⟨pairwise_sortColumns made, checked⟩
  exact .bind columns fun p checked => .pure checked

end Lasting

/-- The catalog keeps these sheets and these splits. -/
def Shows (sheets : Cache ClassKey (Stamped Sheet))
    (splits : Cache ClassKey (Stamped (List (String × Sheet)))) (c : Catalog) : Prop :=
  c.sheets = sheets ∧ c.splits = splits

/-- Styles, conditions and warnings touch neither sheets nor splits. -/
theorem lasting_shows (sheets : Cache ClassKey (Stamped Sheet))
    (splits : Cache ClassKey (Stamped (List (String × Sheet)))) : Lasting (Shows sheets splits) :=
  lasting_of (fun _ _ _ _ _ before => before) fun _ _ _ before _ => before

end Resolving

end Catalog

end SheetExport
