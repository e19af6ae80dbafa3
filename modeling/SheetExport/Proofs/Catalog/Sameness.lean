/-
**The same sheets in two catalogs.**

Two catalogs have an instance each of every style class. `SameStyle`, `SameRule`, `SameColumn` and
`SameSheet` relate what they make of the same declarations: styles are compared by their class, and
everything else is equal.

* `forall₂_mergeSort`, `forall₂_groupBy` — sorting and grouping keep lists related;
* `checkLabels_congr`: labels are checked alike, as the check does not look at styles;
* `SameSheet.split`: the same sheet is split alike.
-/

import SheetExport.Proofs.Catalog.Program

namespace SheetExport

/-! ### Related lists -/

section Lists

variable {α β κ : Type} {R : α → β → Prop} {as : List α} {bs : List β}

/-- Related lists are the two sides of a list of related pairs. -/
theorem exists_pairs (related : List.Forall₂ R as bs) :
    ∃ pairs : List (α × β), (∀ p ∈ pairs, R p.1 p.2) ∧ pairs.map Prod.fst = as ∧
      pairs.map Prod.snd = bs := by
  refine ⟨as.zip bs, fun p member => ?_, ?_, ?_⟩
  · exact List.forall₂_zip related member
  · exact List.map_fst_zip (Nat.le_of_eq related.length_eq)
  · exact List.map_snd_zip (Nat.le_of_eq related.length_eq.symm)

theorem forall₂_of_pairs {pairs : List (α × β)} (related : ∀ p ∈ pairs, R p.1 p.2) :
    List.Forall₂ R (pairs.map Prod.fst) (pairs.map Prod.snd) := by
  rw [List.forall₂_map_left_iff, List.forall₂_map_right_iff, List.forall₂_same]
  exact related

/-- Sorting related lists alike gives related lists. -/
theorem forall₂_mergeSort {le : α → α → Bool} {le' : β → β → Bool} (related : List.Forall₂ R as bs)
    (alike : ∀ a a' b b', R a b → R a' b' → le a a' = le' b b') :
    List.Forall₂ R (as.mergeSort le) (bs.mergeSort le') := by
  obtain ⟨pairs, each, rfl, rfl⟩ := exists_pairs related
  rw [← List.map_mergeSort (r := fun p q => le p.1 q.1) (fun _ _ _ _ => rfl),
    ← List.map_mergeSort (r := fun p q => le p.1 q.1)
      fun p isPair q isPair' => alike _ _ _ _ (each p isPair) (each q isPair')]
  exact forall₂_of_pairs fun p member => each p (List.mem_mergeSort.mp member)

variable [DecidableEq κ]

theorem groupBy_map {γ : Type} (f : γ → α) (key : α → κ) (xs : List γ) :
    groupBy key (xs.map f) = (groupBy (fun x => key (f x)) xs).map fun g => (g.1, g.2.map f) := by
  unfold groupBy
  rw [List.map_map, List.map_map]
  refine List.map_congr_left fun k _ => ?_
  rw [List.filter_map]
  rfl

theorem groupBy_congr {key key' : α → κ} (same : ∀ a ∈ as, key a = key' a) :
    groupBy key as = groupBy key' as := by
  unfold groupBy
  rw [List.map_congr_left same]
  refine List.map_congr_left fun k _ => ?_
  rw [List.filter_congr fun a member => by rw [same a member]]

/-- Grouping related lists by the same keys gives related groups. -/
theorem forall₂_groupBy {key : α → κ} {key' : β → κ} (related : List.Forall₂ R as bs)
    (same : ∀ a b, R a b → key a = key' b) :
    List.Forall₂ (fun g h => g.1 = h.1 ∧ List.Forall₂ R g.2 h.2)
      (groupBy key as) (groupBy key' bs) := by
  obtain ⟨pairs, each, rfl, rfl⟩ := exists_pairs related
  rw [groupBy_map, groupBy_map,
    groupBy_congr fun p (member : p ∈ pairs) => same p.1 p.2 (each p member),
    List.forall₂_map_left_iff, List.forall₂_map_right_iff, List.forall₂_same]
  intro g isGroup
  obtain ⟨k, _, rfl⟩ := List.mem_map.mp isGroup
  exact ⟨rfl, forall₂_of_pairs fun p member => each p (List.mem_filter.mp member).1⟩

end Lists

/-! ### Columns without their styles -/

/-- A style that looks like nothing. -/
def noStyle : Style := ⟨0, "", ⟨.empty, 0, false⟩⟩

/-- A column without its styles and rules. -/
def Column.outline (c : Column) : Column :=
  { c with
    headerStyle := noStyle, columnStyle := noStyle, mergeHeaderStyle := noStyle, rules := [] }

theorem groupGap?_outline (columns members : List Column) (label : String) :
    groupGap? (columns.map Column.outline) (members.map Column.outline) label =
      groupGap? columns members label := by
  have orders : (members.map Column.outline).map Column.order = members.map Column.order :=
    List.map_map
  unfold groupGap?
  rw [orders]
  simp only [List.find?_map, Option.map_map]
  rfl

theorem checkMergeHeaders_outline (columns : List Column) :
    checkMergeHeaders (columns.map Column.outline) = checkMergeHeaders columns := by
  have labelled : (columns.map Column.outline).filter (·.mergeHeader ≠ "") =
      (columns.filter (·.mergeHeader ≠ "")).map Column.outline := List.filter_map
  have gaps : (fun g : String × List Column =>
      groupGap? (columns.map Column.outline) (g.2.map Column.outline) g.1) =
      fun g => groupGap? columns g.2 g.1 := by
    funext g
    exact groupGap?_outline columns g.2 g.1
  unfold checkMergeHeaders
  rw [labelled, groupBy_map]
  dsimp only
  congr 1
  rw [List.findSome?_map]
  show List.findSome? (fun g : String × List Column =>
    groupGap? (columns.map Column.outline) (g.2.map Column.outline) g.1) _ = _
  rw [gaps]
  rfl

theorem checkLabels_outline (type sheet : String) (columns : List Column) :
    Catalog.checkLabels type sheet (columns.map Column.outline) =
      Catalog.checkLabels type sheet columns := by
  unfold Catalog.checkLabels
  dsimp only
  rw [groupBy_map]
  have each : ∀ parts : List (String × List Column),
      (parts.map fun g => (g.1, g.2.map Column.outline)).forM (fun g =>
        (checkMergeHeaders g.2).mapError
          (Failure.mergeHeader (type ++ " sheet " ++ Text.quoted g.1))) =
      parts.forM fun g =>
        (checkMergeHeaders g.2).mapError
          (Failure.mergeHeader (type ++ " sheet " ++ Text.quoted g.1)) := by
    intro parts
    induction parts with
    | nil => rfl
    | cons g parts ih =>
      show (Except.mapError _ (checkMergeHeaders (g.2.map Column.outline)) >>= fun _ =>
        List.forM (parts.map _) _) =
        (Except.mapError _ (checkMergeHeaders g.2) >>= fun _ => List.forM parts _)
      rw [checkMergeHeaders_outline, ih]
  exact each _

/-- Labels are checked without looking at styles. -/
theorem checkLabels_congr {type sheet : String} {columns columns' : List Column}
    (same : columns.map Column.outline = columns'.map Column.outline) :
    Catalog.checkLabels type sheet columns = Catalog.checkLabels type sheet columns' := by
  rw [← checkLabels_outline, same, checkLabels_outline]

/-! ### Sameness -/

namespace Catalog

variable {c c' c₀ c₀' : Catalog} {a b : Column}

/-- Instances of one style class, each the one that its catalog keeps. -/
structure SameStyle (c c₀ : Catalog) (s s₀ : Style) : Prop where
  kept : ∃ key : ClassKey, key.name = s.name ∧
    c.styles.get? key = some s ∧ c₀.styles.get? key = some s₀
  name : s.name = s₀.name
  spec : s.spec = s₀.spec

/-- Rules of one condition and priority, and of the same style. -/
structure SameRule (c c₀ : Catalog) (r r₀ : StyleRule) : Prop where
  condition : r.condition = r₀.condition
  style : SameStyle c c₀ r.style r₀.style
  priority : r.priority = r₀.priority

/-- Columns that are equal but for instances of styles, which are of the same classes. -/
structure SameColumn (c c₀ : Catalog) (a b : Column) : Prop where
  outline : a.outline = b.outline
  headerStyle : SameStyle c c₀ a.headerStyle b.headerStyle
  columnStyle : SameStyle c c₀ a.columnStyle b.columnStyle
  mergeHeaderStyle : SameStyle c c₀ a.mergeHeaderStyle b.mergeHeaderStyle
  rules : List.Forall₂ (SameRule c c₀) a.rules b.rules

/-- Sheets of the same columns. -/
structure SameSheet (c c₀ : Catalog) (s s₀ : Sheet) : Prop where
  name : s.name = s₀.name
  columns : List.Forall₂ (SameColumn c c₀) s.columns s₀.columns
  hasHeader : s.hasHeader = s₀.hasHeader
  order : s.order = s₀.order

theorem SameStyle.mono {s s₀ : Style} (same : SameStyle c c₀ s s₀) (grows : Grows c c')
    (grows₀ : Grows c₀ c₀') : SameStyle c' c₀' s s₀ := by
  obtain ⟨⟨key, named, kept, kept₀⟩, name, spec⟩ := same
  exact ⟨⟨key, named, grows key _ kept, grows₀ key _ kept₀⟩, name, spec⟩

/-- A style asks for the same width of columns. -/
theorem SameStyle.width {s s₀ : Style} (same : SameStyle c c₀ s s₀) (declared : Int) :
    Catalog.width declared s = Catalog.width declared s₀ := by
  unfold Catalog.width
  rw [same.spec]

theorem SameRule.mono {r r₀ : StyleRule} (same : SameRule c c₀ r r₀) (grows : Grows c c')
    (grows₀ : Grows c₀ c₀') : SameRule c' c₀' r r₀ :=
  ⟨same.condition, same.style.mono grows grows₀, same.priority⟩

theorem SameColumn.mono (same : SameColumn c c₀ a b) (grows : Grows c c')
    (grows₀ : Grows c₀ c₀') : SameColumn c' c₀' a b :=
  ⟨same.outline, same.headerStyle.mono grows grows₀, same.columnStyle.mono grows grows₀,
    same.mergeHeaderStyle.mono grows grows₀,
    same.rules.imp fun _ _ rule => rule.mono grows grows₀⟩

theorem SameSheet.mono {s s₀ : Sheet} (same : SameSheet c c₀ s s₀) (grows : Grows c c')
    (grows₀ : Grows c₀ c₀') : SameSheet c' c₀' s s₀ :=
  ⟨same.name, same.columns.imp fun _ _ column => column.mono grows grows₀, same.hasHeader,
    same.order⟩

theorem SameColumn.order (same : SameColumn c c₀ a b) : a.order = b.order :=
  show a.outline.order = b.outline.order from congrArg Column.order same.outline

theorem SameColumn.sheetName (same : SameColumn c c₀ a b) : a.sheetName = b.sheetName :=
  show a.outline.sheetName = b.outline.sheetName from congrArg Column.sheetName same.outline

/-- Columns of the same outlines. -/
theorem map_outline_of_same {columns columns' : List Column}
    (same : List.Forall₂ (SameColumn c c₀) columns columns') :
    columns.map Column.outline = columns'.map Column.outline := by
  induction same with
  | nil => rfl
  | cons first _ ih => rw [List.map_cons, List.map_cons, first.outline, ih]

/-- The same columns are sorted alike. -/
theorem sortColumns_same {columns columns' : List Column}
    (same : List.Forall₂ (SameColumn c c₀) columns columns') :
    List.Forall₂ (SameColumn c c₀) (sortColumns columns) (sortColumns columns') := by
  refine forall₂_mergeSort same fun a a' b b' first second => ?_
  rw [first.order, second.order]

/-- The same rules are tried in the same order. -/
theorem inEvaluationOrder_same {rules rules' : List StyleRule}
    (same : List.Forall₂ (SameRule c c₀) rules rules') :
    List.Forall₂ (SameRule c c₀) (inEvaluationOrder rules) (inEvaluationOrder rules') := by
  refine forall₂_mergeSort same fun a a' b b' first second => ?_
  rw [first.priority, second.priority]

/-- Sheets of a name that are the same but for instances of styles. -/
def SameSheets (c c₀ : Catalog) (parts parts₀ : List (String × Sheet)) : Prop :=
  List.Forall₂ (fun p p₀ => p.1 = p₀.1 ∧ SameSheet c c₀ p.2 p₀.2) parts parts₀

/-- **The same sheet is split alike.** -/
theorem SameSheet.split {s s₀ : Sheet} (same : SameSheet c c₀ s s₀) :
    SameSheets c c₀ s.split s₀.split := by
  have keys : ∀ a b, SameColumn c c₀ a b →
      (if a.sheetName = "" then s.name else a.sheetName) =
        if b.sheetName = "" then s₀.name else b.sheetName := by
    intro a b related
    rw [same.name, related.sheetName]
  have parts := forall₂_groupBy same.columns keys
  have bySheet : List.Forall₂ (fun g h => g.1 = h.1 ∧ List.Forall₂ (SameColumn c c₀) g.2 h.2)
      s.columnsBySheet s₀.columnsBySheet := by
    refine List.rel_append (List.rel_filter ?_ parts) (List.rel_filter ?_ parts)
    · rintro g h ⟨named, _⟩
      dsimp only
      rw [named, same.name]
    · rintro g h ⟨named, _⟩
      dsimp only
      rw [named, same.name]
  unfold SameSheets Sheet.split
  rw [List.forall₂_map_left_iff, List.forall₂_map_right_iff]
  refine bySheet.imp fun g h related => ⟨related.1, related.1, related.2, same.hasHeader, ?_⟩
  dsimp only
  rw [related.1, same.name, same.order]

end Catalog

end SheetExport
