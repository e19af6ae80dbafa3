/-
**What describing the sheets of a record type leaves, and how it can fail.**

* `upholds_describeSheets_of` — a description keeps to what lasts, unless further sheets and splits
  matter to it;
* `Described c t sheets` — the catalog keeps the sheet of a type and, as its split, these sheets;
* `Extends c c'` — types that were described stay so; further descriptions
  (`described_of_describeSheets`)
  and warnings (`extends_of_warned`) extend a catalog;
* `splitsOfSheets_of_reachable` — whatever was requested, splits are those of the kept sheets;
* `failsOnly_describeSheets`: a description fails only by what the type and its styles declare, or by
  a fault of foreign code.
-/

import SheetExport.Proofs.Catalog.Requests

namespace SheetExport

/-- The failure is one of what a record type and its styles declare, or a fault of foreign code. -/
def Failure.IsOfType : Failure → Prop
  | style _ | condition .. | declaration _ | access _ | unreadableType _ | noColumns _
  | mergeHeader .. | fault _ => True
  | _ => False

theorem Failure.IsOfType.addNote {f : Failure} (isOfType : f.IsOfType) (note : String) :
    (f.addNote note).IsOfType := by
  cases f <;> exact isOfType

namespace Catalog

variable {c c' : Catalog} {t : RecordType}

/-! ### What a description keeps to -/

/-- A shelf gives back what is written on it. -/
def Shelf.IsLawful {κ β : Type} (shelf : Shelf κ β) : Prop :=
  ∀ cache c, shelf.read (shelf.write cache c) = cache

theorem isLawful_sheetShelf : sheetShelf.IsLawful := fun _ _ => rfl

theorem isLawful_splitShelf : splitShelf.IsLawful := fun _ _ => rfl

/-- What a shelf has given, it keeps. -/
theorem get?_of_yields_once {κ β : Type} [DecidableEq κ] {shelf : Shelf κ β}
    (lawful : shelf.IsLawful)
    {key : κ} {make : CatalogM β} {b : β} (yields : Yields (once shelf key make) c b c') :
    (shelf.read c').get? key = some b := by
  unfold Yields at yields
  rw [run_once] at yields
  split at yields
  · rename_i kept found
    cases yields
    exact found
  · split at yields
    · cases yields
    · rename_i made c₁ _
      cases yields
      rw [lawful, Cache.get?_publish, if_pos rfl]

section Upholding

variable {I : Catalog → Prop} (lasting : Lasting I)
  (stamps : ∀ c nextStamp, I c → I { c with nextStamp })
  (sheets : ∀ c key s, I c → I (sheetShelf.write ((sheetShelf.read c).publish key s).2 c))

include lasting stamps sheets

theorem upholds_describe_of (t : RecordType) : Upholds I (fun _ => True) (describe t) := by
  have makes : Upholds I (fun _ => True) (do stamp (← extract t)) :=
    .bind (lasting.extract t) fun s _ => fun c before => ⟨stamps c _ before, fun _ _ => trivial⟩
  exact upholds_once (fun _ _ _ _ => trivial) makes (fun _ => id) fun c s before _ =>
    sheets c t.key s before

/-- **A description keeps to what lasts**, if neither stamps nor further sheets and splits matter. -/
theorem upholds_describeSheets_of
    (splits : ∀ c key p, I c → I (splitShelf.write ((splitShelf.read c).publish key p).2 c))
    (t : RecordType) : Upholds I (fun _ => True) (describeSheets t) := by
  have makes : Upholds I (fun _ => True) (do
      let sheet ← describe t
      stamp sheet.value.split) :=
    .bind (upholds_describe_of lasting stamps sheets t) fun s _ => fun c before =>
      ⟨stamps c _ before, fun _ _ => trivial⟩
  exact upholds_once (fun _ _ _ _ => trivial) makes (fun _ => id) fun c p before _ =>
    splits c t.key p before

end Upholding

/-! ### Splits of kept sheets -/

/-- Every split that is kept is that of the sheet that is kept for the same class. -/
def SplitsOfSheets (c : Catalog) : Prop :=
  ∀ key p, c.splits.get? key = some p → ∃ s, c.sheets.get? key = some s ∧ p.value = s.value.split

theorem splitsOfSheets_empty : SplitsOfSheets .empty :=
  fun _ _ found => (Option.some_ne_none _ found.symm).elim

theorem lasting_splitsOfSheets : Lasting SplitsOfSheets :=
  lasting_of (fun _ _ _ _ _ before => before) fun _ _ _ before _ => before

theorem upholds_describe_splitsOfSheets (t : RecordType) :
    Upholds SplitsOfSheets (fun _ => True) (describe t) := by
  refine upholds_describe_of lasting_splitsOfSheets (fun _ _ before => before) ?_ t
  intro c key s before k p found
  obtain ⟨whole, kept, split⟩ := before k p found
  exact ⟨whole, Cache.get?_publish_of_some kept, split⟩

theorem upholds_describeSheets_splitsOfSheets (t : RecordType) :
    Upholds SplitsOfSheets (fun _ => True) (describeSheets t) := by
  intro c before
  refine ⟨?_, fun _ _ => trivial⟩
  rw [describeSheets, run_once]
  split
  · exact before
  · rw [run_run_bind]
    cases outcome : (describe t).run.run c with
    | mk result c₁ =>
      have after := (upholds_describe_splitsOfSheets t).after before
      rw [outcome] at after
      cases result with
      | error e => exact after
      | ok whole =>
        have kept : c₁.sheets.get? t.key = some whole :=
          get?_of_yields_once isLawful_sheetShelf outcome
        intro key p found
        rcases Cache.of_get?_publish found with old | ⟨rfl, rfl⟩
        · exact after key p old
        · exact ⟨whole, kept, rfl⟩

theorem upholds_answer_splitsOfSheets (r : Request) :
    Upholds SplitsOfSheets (fun _ => True) r.answer := by
  cases r with
  | describe t => exact .bind (upholds_describe_splitsOfSheets t) fun _ _ => .pure trivial
  | describeSheets t =>
    exact .bind (upholds_describeSheets_splitsOfSheets t) fun _ _ => .pure trivial
  | compile v => exact .bind (lasting_splitsOfSheets.compile v) fun _ _ => .pure trivial
  | clear => exact .bind (.modify fun _ _ => splitsOfSheets_empty) fun _ _ => .pure trivial

/-- **Whatever was requested, splits are those of the kept sheets.** -/
theorem splitsOfSheets_of_reachable (reachable : Reachable c) : SplitsOfSheets c := by
  induction reachable with
  | empty => exact splitsOfSheets_empty
  | after _ r ih => exact (upholds_answer_splitsOfSheets r).after ih
  | styled _ k ih => exact (lasting_splitsOfSheets.style k).after ih
  | warned _ w ih => exact ih

/-! ### Types that were described -/

/-- The catalog keeps the sheet of the type, and these sheets as its split. -/
def Described (c : Catalog) (t : RecordType) (sheets : List (String × Sheet)) : Prop :=
  ∃ whole split, c.sheets.get? t.key = some whole ∧ c.splits.get? t.key = some split ∧
    split.value = sheets ∧ sheets = whole.value.split

/-- **A type whose sheets are described is known from then on.** -/
theorem described_of_describeSheets {p : Stamped (List (String × Sheet))} (before : SplitsOfSheets c)
    (yields : Yields (describeSheets t) c p c') : Described c' t p.value := by
  have kept := get?_of_yields_once isLawful_splitShelf yields
  have after := (upholds_describeSheets_splitsOfSheets t).after before
  rw [yields] at after
  obtain ⟨whole, keptSheet, parts⟩ := after t.key p kept
  exact ⟨whole, p, keptSheet, kept, rfl, parts⟩

/-- Types that were described stay so. -/
structure Extends (c c' : Catalog) : Prop where
  splits : SplitsOfSheets c → SplitsOfSheets c'
  described : ∀ t sheets, Described c t sheets → Described c' t sheets

theorem Extends.refl (c : Catalog) : Extends c c := ⟨id, fun _ _ => id⟩

theorem Extends.trans {c'' : Catalog} (first : Extends c c') (second : Extends c' c'') :
    Extends c c'' :=
  ⟨second.splits ∘ first.splits,
    fun t sheets => second.described t sheets ∘ first.described t sheets⟩

theorem extends_of_warned (c : Catalog) (warnings : List Warning) :
    Extends c { c with warnings := warnings } := ⟨id, fun _ _ => id⟩

/-- Describing a type does not make a catalog forget others. -/
theorem extends_of_describeSheets {p : Stamped (List (String × Sheet))}
    (yields : Yields (describeSheets t) c p c') : Extends c c' := by
  refine ⟨fun before => ((upholds_describeSheets_splitsOfSheets t).of_yields before yields).1,
    fun u sheets described => ?_⟩
  have lasting : Lasting fun c => Described c u sheets :=
    lasting_of (fun _ _ _ _ _ before => before) fun _ _ _ before _ => before
  refine ((upholds_describeSheets_of lasting (fun _ _ before => before) ?_ ?_ t).of_yields described
    yields).1
  · rintro c key s ⟨whole, split, keptSheet, keptSplit, same⟩
    exact ⟨whole, split, Cache.get?_publish_of_some keptSheet, keptSplit, same⟩
  · rintro c key s ⟨whole, split, keptSheet, keptSplit, same⟩
    exact ⟨whole, split, keptSheet, Cache.get?_publish_of_some keptSplit, same⟩

/-! ### Warnings of orders -/

/-- The warnings of orders that were ignored. -/
def ignoredOrders (c : Catalog) : List Warning :=
  c.warnings.filter fun w => match w with
    | .orderIgnored .. => true
    | _ => false

/-- A description does not warn of ignored orders. -/
theorem ignoredOrders_of_describeSheets {p : Stamped (List (String × Sheet))}
    (yields : Yields (describeSheets t) c p c') : c'.ignoredOrders = c.ignoredOrders := by
  have lasting : Lasting fun c' => c'.ignoredOrders = c.ignoredOrders := by
    refine lasting_of_parts (fun _ _ _ _ before => before) (fun c₁ type defect before => ?_)
      fun _ _ _ before _ => before
    unfold ignoredOrders at *
    rw [List.filter_append, before]
    exact List.append_nil _
  exact ((upholds_describeSheets_of lasting (fun _ _ before => before) (fun _ _ _ before => before)
    (fun _ _ _ before => before) t).of_yields rfl yields).1

/-! ### Failures -/

section Failures

/-- A shelf fails only if what it lacks cannot be made. -/
theorem failsOnly_once {κ β : Type} [DecidableEq κ] {P : Failure → Prop} (shelf : Shelf κ β)
    (key : κ) {make : CatalogM β} (makes : FailsOnly P make) :
    FailsOnly P (once shelf key make) := by
  intro c failure c' fails
  unfold Fails at fails
  rw [run_once] at fails
  split at fails
  · cases fails
  · split at fails
    · rename_i e c₁ failed
      cases fails
      exact makes failed
    · cases fails

theorem failsOnly_stamp {α : Type} {P : Failure → Prop} (a : α) : FailsOnly P (stamp a) :=
  fun _ _ _ fails => nomatch (Prod.mk.inj fails).1

theorem failsOnly_warn {P : Failure → Prop} (w : Warning) : FailsOnly P (warn w) :=
  fun _ _ _ fails => nomatch (Prod.mk.inj fails).1

theorem failsOnly_style (k : StyleClass) : FailsOnly Failure.IsOfType (style k) := by
  refine failsOnly_once _ _ fun c failure c' fails => ?_
  obtain ⟨attempt, attempts, made⟩ := run_makeStyle k c
  unfold Fails at fails
  rw [made] at fails
  split at fails
  · cases fails
    trivial
  · cases fails

theorem failsOnly_compileAnew (v : Value) : FailsOnly Failure.IsOfType (compileAnew v) := by
  intro c failure c' fails
  unfold Fails at fails
  rw [run_compileAnew] at fails
  cases outcome : Condition.ofValue v with
  | ok condition =>
    rw [outcome] at fails
    cases fails
  | error e =>
    rw [outcome] at fails
    cases fails
    unfold Condition.ofValue at outcome
    split at outcome
    · cases parsed : Condition.parse _ with
      | ok k =>
        rw [parsed] at outcome
        cases outcome
      | error mistake =>
        rw [parsed] at outcome
        cases outcome
        trivial
    · cases outcome
      trivial
    · cases outcome
      trivial

theorem failsOnly_compile (v : Value) : FailsOnly Failure.IsOfType (compile v) := by
  unfold Catalog.compile
  split
  · exact .throw trivial
  · split
    · exact failsOnly_once _ _ (failsOnly_compileAnew v)
    · exact failsOnly_compileAnew v

/-- A note does not change the kind of a failure. -/
theorem failsOnly_noting {α : Type} {x : CatalogM α} (failsOnly : FailsOnly Failure.IsOfType x)
    (note : String) : FailsOnly Failure.IsOfType (noting note x) := by
  intro c failure c' fails
  unfold Fails at fails
  rw [run_noting] at fails
  split at fails
  · cases fails
  · rename_i e c₁ failed
    cases fails
    exact (failsOnly failed).addNote note

theorem failsOnly_headerStyle (column : Option ColumnSpec) (sheet : SheetSpec) :
    FailsOnly Failure.IsOfType (headerStyle column sheet) := by
  unfold headerStyle
  split <;> exact failsOnly_style _

theorem failsOnly_columnStyle (column : Option ColumnSpec) (sheet : SheetSpec) (kind : FieldKind) :
    FailsOnly Failure.IsOfType (columnStyle column sheet kind) := by
  unfold columnStyle
  split <;> exact failsOnly_style _

theorem failsOnly_mergeHeaderStyle (column : Option ColumnSpec) (sheet : SheetSpec) :
    FailsOnly Failure.IsOfType (mergeHeaderStyle column sheet) := by
  unfold mergeHeaderStyle
  split
  · exact failsOnly_style _
  · exact failsOnly_headerStyle _ _

theorem failsOnly_compileRules (specs : List RuleSpec) :
    FailsOnly Failure.IsOfType (compileRules compile specs) := by
  refine .bind (.mapM fun spec _ => ?_) fun _ => .pure _
  exact .bind (failsOnly_compile _) fun _ => .bind (failsOnly_style _) fun _ => .pure _

theorem failsOnly_readSheet (t : RecordType) : FailsOnly Failure.IsOfType (readSheet t) := by
  have bindings : FailsOnly Failure.IsOfType (resolveBindings t) := by
    unfold resolveBindings
    split
    · exact .pure _
    · split
      · exact .bind (.throw trivial) fun _ => .bind (failsOnly_warn _) fun _ => .pure _
      · exact .bind (failsOnly_warn _) fun _ => .pure _
  unfold readSheet readSchema
  refine .bind ?_ fun schema => ?_
  · split
    · exact .throw trivial
    · split <;> exact .throw trivial
    · exact .pure _
    · exact .bind bindings fun _ => .pure _
  · split
    · exact .pure _
    · exact .throw trivial

theorem failsOnly_makeColumn (t : RecordType) (sheet : SheetSpec) (b : Binding)
    (spec : ColumnSpec) : FailsOnly Failure.IsOfType (makeColumn t sheet b spec) := by
  unfold makeColumn
  dsimp only
  split
  · rename_i defect _
    refine .throw ?_
    unfold Failure.ofAccess
    split <;> trivial
  · refine .bind (failsOnly_columnStyle _ _ _) fun _ => ?_
    refine .bind (failsOnly_noting (failsOnly_compileRules _) _) fun _ => ?_
    refine .bind (failsOnly_headerStyle _ _) fun _ => ?_
    exact .bind (failsOnly_mergeHeaderStyle _ _) fun _ => .pure _

theorem isOfType_of_checkLabels {type sheet : String} {columns : List Column} {failure : Failure}
    (failed : checkLabels type sheet columns = .error failure) : failure.IsOfType := by
  obtain ⟨owner, gap, rfl⟩ := exists_gap_of_checkLabels failed
  trivial

theorem failsOnly_extract (t : RecordType) : FailsOnly Failure.IsOfType (extract t) := by
  refine .bind ?_ fun made => .pure _
  unfold extractColumns
  refine .bind (failsOnly_readSheet t) fun p => ?_
  obtain ⟨sheet, bindings⟩ := p
  refine .bind (.mapM fun _ _ => failsOnly_makeColumn t sheet _ _) fun made => ?_
  dsimp only
  split
  on_goal 1 => refine .bind (.throw trivial) fun _ => ?_
  all_goals
    split
    · rename_i failure failed
      exact .throw (isOfType_of_checkLabels failed)
    · exact .pure _

/-- **A description fails only by what the type declares.** -/
theorem failsOnly_describeSheets (t : RecordType) :
    FailsOnly Failure.IsOfType (describeSheets t) := by
  refine failsOnly_once _ _ (.bind (failsOnly_once _ _ ?_) fun sheet => failsOnly_stamp _)
  exact .bind (failsOnly_extract t) fun sheet => failsOnly_stamp _

end Failures

end Catalog

end SheetExport
