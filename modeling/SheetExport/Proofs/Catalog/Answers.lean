/-
**A catalog answers as if it were new.**

* `Faithful program c` — the catalog is sound, every sheet that it keeps is the same as one that an
  empty catalog makes of the type, and every split that it keeps is that of the sheet it keeps for
  the type;
* `answered_describe`, `answered_describeSheets`, `answered_compile` — from a faithful catalog, a
  request fails as it does on an empty one, or has the same answer, and the catalog stays faithful;
* `Consistent program c` — splits are those of the kept sheets, and the styles in kept sheets are
  the kept instances of their classes;
* `answers_agree`: after any requests, the next one is answered as on an empty catalog, a failing
  one leaves sheets and splits as they were, and the catalog is consistent.
-/

import SheetExport.Proofs.Catalog.Alike
import SheetExport.Proofs.Catalog.Requests

namespace SheetExport

/-- The styles that a column uses. -/
def Column.styles (c : Column) : List Style :=
  [c.headerStyle, c.columnStyle, c.mergeHeaderStyle] ++ c.rules.map StyleRule.style

/-- The styles that a sheet uses. -/
def Sheet.styles (s : Sheet) : List Style := s.columns.flatMap Column.styles

namespace Catalog

variable {program : Program} {c c' c₀ : Catalog} {t : RecordType}

/-! ### Faithful catalogs -/

/-- The sheet is the same as the one that an empty catalog makes of the type. -/
def Resolves (c : Catalog) (t : RecordType) (sheet : Sheet) : Prop :=
  ∃ sheet₀ c₀, Yields (extract t) .empty sheet₀ c₀ ∧ SameSheet c c₀ sheet sheet₀

theorem Resolves.mono {sheet : Sheet} (resolves : Resolves c t sheet) (grows : Grows c c') :
    Resolves c' t sheet := by
  obtain ⟨sheet₀, c₀, extracted, same⟩ := resolves
  exact ⟨sheet₀, c₀, extracted, same.mono grows fun _ _ => id⟩

/-- What is kept is what would be made anew. -/
structure Faithful (program : Program) (c : Catalog) : Prop where
  sound : Sound program c
  sheets : ∀ key s, c.sheets.get? key = some s →
    ∃ t, program.isType t ∧ t.key = key ∧ Resolves c t s.value
  splits : ∀ key p, c.splits.get? key = some p →
    ∃ s, c.sheets.get? key = some s ∧ p.value = s.value.split

theorem not_kept_in_empty {κ β : Type} [DecidableEq κ] {key : κ} {b : β} {P : Prop}
    (found : (Cache.empty : Cache κ β).get? key = some b) : P :=
  (Option.some_ne_none b found.symm).elim

theorem faithful_empty (program : Program) : Faithful program .empty :=
  ⟨sound_empty program, fun _ _ => not_kept_in_empty, fun _ _ => not_kept_in_empty⟩

/-- Going onward without touching sheets and splits stays faithful. -/
theorem Faithful.onward (faithful : Faithful program c) (onward : Onward program c c')
    (sheets : c'.sheets = c.sheets) (splits : c'.splits = c.splits) : Faithful program c' := by
  refine ⟨onward.sound, ?_, ?_⟩
  · rw [sheets]
    intro key s found
    obtain ⟨t, isType, sameKey, resolves⟩ := faithful.sheets key s found
    exact ⟨t, isType, sameKey, resolves.mono onward.grows⟩
  · rw [sheets, splits]
    exact faithful.splits

/-- A kept sheet is the one that an empty catalog makes of the type. -/
theorem Faithful.resolves (faithful : Faithful program c) (isType : program.isType t)
    {s : Stamped Sheet} (found : c.sheets.get? t.key = some s) : Resolves c t s.value := by
  obtain ⟨u, isType', sameKey, resolves⟩ := faithful.sheets t.key s found
  cases program.type_unique isType' isType sameKey
  exact resolves

/-- The catalog with a further sheet, put up for a type. -/
def withSheet (c : Catalog) (t : RecordType) (sheet : Sheet) : Catalog :=
  { c with
    nextStamp := c.nextStamp + 1
    sheets := (c.sheets.publish t.key ⟨c.nextStamp, sheet⟩).2 }

/-- The catalog with a further split, put up for a type. -/
def withSplit (c : Catalog) (t : RecordType) (sheets : List (String × Sheet)) : Catalog :=
  { c with
    nextStamp := c.nextStamp + 1
    splits := (c.splits.publish t.key ⟨c.nextStamp, sheets⟩).2 }

theorem Faithful.withSheet (faithful : Faithful program c) (isType : program.isType t)
    {sheet : Sheet} (resolves : Resolves c t sheet) : Faithful program (c.withSheet t sheet) := by
  have grows : Grows c (c.withSheet t sheet) := fun _ _ => id
  refine ⟨faithful.sound.congr rfl rfl, fun key made found => ?_, fun key p found => ?_⟩
  · rcases Cache.of_get?_publish found with kept | ⟨rfl, rfl⟩
    · obtain ⟨u, isType', sameKey, before⟩ := faithful.sheets key made kept
      exact ⟨u, isType', sameKey, before.mono grows⟩
    · exact ⟨t, isType, rfl, resolves.mono grows⟩
  · obtain ⟨s, kept, split⟩ := faithful.splits key p found
    exact ⟨s, Cache.get?_publish_of_some kept, split⟩

theorem Faithful.withSplit (faithful : Faithful program c) {s : Stamped Sheet}
    (kept : c.sheets.get? t.key = some s) : Faithful program (c.withSplit t s.value.split) := by
  have grows : Grows c (c.withSplit t s.value.split) := fun _ _ => id
  refine ⟨faithful.sound.congr rfl rfl, fun key made found => ?_, fun key made found => ?_⟩
  · obtain ⟨u, isType, sameKey, resolves⟩ := faithful.sheets key made found
    exact ⟨u, isType, sameKey, resolves.mono grows⟩
  · rcases Cache.of_get?_publish found with before | ⟨rfl, rfl⟩
    · exact faithful.splits key made before
    · exact ⟨s, kept, rfl⟩

/-! ### Making sheets and splits -/

theorem shows_of_extract (c : Catalog) (t : RecordType) :
    ((extract t).run.run c).2.sheets = c.sheets ∧ ((extract t).run.run c).2.splits = c.splits :=
  ((lasting_shows c.sheets c.splits).extract t).after ⟨rfl, rfl⟩

/-- What was extracted is put up as the sheet of the type. -/
theorem yields_describe_made {sheet : Sheet} (missing : c.sheets.get? t.key = none)
    (extracted : Yields (extract t) c sheet c') :
    Yields (describe t) c ⟨c'.nextStamp, sheet⟩ (c'.withSheet t sheet) := by
  have shown := shows_of_extract c t
  rw [extracted] at shown
  have makes : Yields (do stamp (← extract t)) c ⟨c'.nextStamp, sheet⟩
      { c' with nextStamp := c'.nextStamp + 1 } := extracted.bind rfl
  have still : c'.sheets.get? t.key = none := by rw [shown.1, missing]
  exact yields_once_made missing makes still

theorem fails_describe {e : Failure} (missing : c.sheets.get? t.key = none)
    (fails : Fails (extract t) c e c') : Fails (describe t) c e c' :=
  fails_once missing (fails_bind_iff.mpr (Or.inl fails))

/-- The parts of the sheet that is described are put up as the split of the type. -/
theorem yields_describeSheets_made {s : Stamped Sheet} (missing : c.splits.get? t.key = none)
    (described : Yields (describe t) c s c') (still : c'.splits.get? t.key = none) :
    Yields (describeSheets t) c ⟨c'.nextStamp, s.value.split⟩
      (c'.withSplit t s.value.split) := by
  have makes : Yields (do
      let sheet ← describe t
      stamp sheet.value.split) c ⟨c'.nextStamp, s.value.split⟩
      { c' with nextStamp := c'.nextStamp + 1 } := described.bind rfl
  exact yields_once_made missing makes still

theorem fails_describeSheets {e : Failure} (missing : c.splits.get? t.key = none)
    (fails : Fails (describe t) c e c') : Fails (describeSheets t) c e c' :=
  fails_once missing (fails_bind_iff.mpr (Or.inl fails))

/-! ### Answers -/

/-- A computation fails as it does on an empty catalog, leaving sheets and splits as they are, or it
has a related result. The catalog is faithful behind it. -/
inductive Answered {α : Type} (program : Program) (R : Catalog → Catalog → α → α → Prop)
    (x : CatalogM α) (c : Catalog) : Prop
  | made {a a₀ : α} {c' c₀' : Catalog} (yields : Yields x c a c') (yields₀ : Yields x .empty a₀ c₀')
    (faithful : Faithful program c') (related : R c' c₀' a a₀)
  | failed {e : Failure} {c' c₀' : Catalog} (fails : Fails x c e c') (fails₀ : Fails x .empty e c₀')
    (faithful : Faithful program c') (sheets : c'.sheets = c.sheets) (splits : c'.splits = c.splits)

/-- The same sheet, kept for the type now; there are no further splits. -/
structure SameDescription (before : Catalog) (t : RecordType) (c c₀ : Catalog)
    (s s₀ : Stamped Sheet) : Prop where
  same : SameSheet c c₀ s.value s₀.value
  kept : c.sheets.get? t.key = some s
  splits : c.splits = before.splits
  splits₀ : c₀.splits = Catalog.empty.splits

/-- **A type is described as on an empty catalog.** -/
theorem answered_describe (faithful : Faithful program c) (isType : program.isType t) :
    Answered program (SameDescription c t) (describe t) c := by
  cases found : c.sheets.get? t.key with
  | some s =>
    obtain ⟨sheet₀, c₀, extracted, same⟩ := faithful.resolves isType found
    have shown := shows_of_extract .empty t
    rw [extracted] at shown
    refine .made (yields_once_kept found) (yields_describe_made rfl extracted) faithful ?_
    exact ⟨same.mono (fun _ _ => id) fun _ _ => id, found, rfl, shown.2⟩
  | none =>
    have shown := shows_of_extract c t
    have shown₀ := shows_of_extract .empty t
    cases alike_extract faithful.sound (sound_empty program) isType with
    | failed fails fails₀ onward _ =>
      rw [fails] at shown
      exact .failed (fails_describe found fails) (fails_describe rfl fails₀)
        (faithful.onward onward shown.1 shown.2) shown.1 shown.2
    | @made sheet sheet₀ c' c₀' extracted extracted₀ onward _ same =>
      rw [extracted] at shown
      rw [extracted₀] at shown₀
      have still : c'.sheets.get? t.key = none := by rw [shown.1, found]
      have resolves : Resolves c' t sheet := ⟨sheet₀, c₀', extracted₀, same⟩
      have after := faithful.onward onward shown.1 shown.2
      refine .made (yields_describe_made found extracted) (yields_describe_made rfl extracted₀)
        (after.withSheet isType resolves) ?_
      refine ⟨same.mono (fun _ _ => id) fun _ _ => id, ?_, shown.2, shown₀.2⟩
      show (Cache.publish _ _ _).2.get? t.key = _
      rw [Cache.get?_publish, if_pos rfl]
      show some ((c'.sheets.get? t.key).getD _) = _
      rw [still]
      rfl

/-- **A type is split to sheets as on an empty catalog.** -/
theorem answered_describeSheets (faithful : Faithful program c) (isType : program.isType t) :
    Answered program (fun c c₀ p p₀ => SameSheets c c₀ p.value p₀.value) (describeSheets t) c := by
  cases found : c.splits.get? t.key with
  | some p =>
    obtain ⟨s, kept, split⟩ := faithful.splits t.key p found
    obtain ⟨sheet₀, c₀, extracted, same⟩ := faithful.resolves isType kept
    have shown := shows_of_extract .empty t
    rw [extracted] at shown
    have still : c₀.splits.get? t.key = none := by rw [shown.2]; rfl
    refine .made (yields_once_kept found)
      (yields_describeSheets_made rfl (yields_describe_made rfl extracted) still) faithful ?_
    rw [split]
    refine SameSheet.split ?_
    exact same.mono (fun _ _ => id) fun _ _ => id
  | none =>
    cases answered_describe faithful isType with
    | failed fails fails₀ faithful' sheets splits =>
      exact .failed (fails_describeSheets found fails) (fails_describeSheets rfl fails₀) faithful'
        sheets splits
    | @made s s₀ c' c₀' described described₀ faithful' related =>
      have still : c'.splits.get? t.key = none := by rw [related.splits, found]
      have still₀ : c₀'.splits.get? t.key = none := by rw [related.splits₀]; rfl
      refine .made (yields_describeSheets_made found described still)
        (yields_describeSheets_made rfl described₀ still₀) (faithful'.withSplit related.kept) ?_
      refine SameSheet.split ?_
      exact related.same.mono (fun _ _ => id) fun _ _ => id

/-- **A condition is compiled as on an empty catalog.** -/
theorem answered_compile (faithful : Faithful program c) (v : Value) :
    Answered program (fun _ _ k k₀ => k.value = k₀.value) (compile v) c := by
  have shown := ((lasting_shows c.sheets c.splits).compile v).after ⟨rfl, rfl⟩
  cases alike_compile faithful.sound (sound_empty program) v with
  | failed fails fails₀ onward _ =>
    rw [fails] at shown
    exact .failed fails fails₀ (faithful.onward onward shown.1 shown.2) shown.1 shown.2
  | made yields yields₀ onward _ same =>
    rw [yields] at shown
    exact .made yields yields₀ (faithful.onward onward shown.1 shown.2) same

/-! ### Requests -/

/-- What is computed from a related result is related as well. -/
theorem Answered.map {α β : Type} {R : Catalog → Catalog → α → α → Prop}
    {S : Catalog → Catalog → β → β → Prop} {x : CatalogM α} {g : α → β}
    (answered : Answered program R x c) (maps : ∀ c c₀ a b, R c c₀ a b → S c c₀ (g a) (g b)) :
    Answered program S (do return g (← x)) c := by
  cases answered with
  | failed fails fails₀ faithful sheets splits =>
    exact .failed (fails_bind_iff.mpr (Or.inl fails)) (fails_bind_iff.mpr (Or.inl fails₀)) faithful
      sheets splits
  | made yields yields₀ faithful related =>
    exact .made (yields.bind (.pure _ _)) (yields₀.bind (.pure _ _)) faithful
      (maps _ _ _ _ related)

/-- The request is about a type of the program, if it is about a type. -/
def Request.IsOf (program : Program) : Request → Prop
  | describe t | describeSheets t => program.isType t
  | compile _ | clear => True

/-- The same answer, with styles compared by their classes. -/
inductive SameAnswer (c c₀ : Catalog) : Answer → Answer → Prop
  | sheet {s s₀ : Stamped Sheet} (same : SameSheet c c₀ s.value s₀.value) :
    SameAnswer c c₀ (.sheet s) (.sheet s₀)
  | sheets {p p₀ : Stamped (List (String × Sheet))} (same : SameSheets c c₀ p.value p₀.value) :
    SameAnswer c c₀ (.sheets p) (.sheets p₀)
  | condition {k k₀ : Stamped Condition} (same : k.value = k₀.value) :
    SameAnswer c c₀ (.condition k) (.condition k₀)
  | cleared : SameAnswer c c₀ .cleared .cleared

/-- **One request is answered as on an empty catalog.** -/
theorem answered_answer (faithful : Faithful program c) {r : Request} (isOf : r.IsOf program) :
    Answered program SameAnswer r.answer c := by
  cases r with
  | describe t =>
    exact (answered_describe faithful isOf).map fun _ _ _ _ related => .sheet related.same
  | describeSheets t =>
    exact (answered_describeSheets faithful isOf).map fun _ _ _ _ same => .sheets same
  | compile v => exact (answered_compile faithful v).map fun _ _ _ _ same => .condition same
  | clear =>
    have cleared : Faithful program c.clear :=
      ⟨⟨fun _ _ => not_kept_in_empty, fun _ _ => not_kept_in_empty⟩, fun _ _ => not_kept_in_empty,
        fun _ _ => not_kept_in_empty⟩
    exact .made (rfl : Yields Request.clear.answer c .cleared c.clear) rfl cleared .cleared

/-- The catalog after requests, from an empty one. -/
def afterAll (requests : List Request) : Catalog := requests.foldl after .empty

theorem faithful_afterAll {requests : List Request} (isOf : ∀ r ∈ requests, r.IsOf program) :
    Faithful program (afterAll requests) := by
  unfold afterAll
  have start := faithful_empty program
  generalize Catalog.empty = c at start
  induction requests generalizing c with
  | nil => exact start
  | cons r requests ih =>
    rw [List.foldl_cons]
    refine ih (fun r' member => isOf r' (List.mem_cons_of_mem _ member)) _ ?_
    unfold after
    cases answered_answer start (isOf r List.mem_cons_self) with
    | made yields _ faithful _ =>
      rw [yields]
      exact faithful
    | failed fails _ faithful _ _ =>
      rw [fails]
      exact faithful

/-- What is kept fits together. -/
structure Consistent (program : Program) (c : Catalog) : Prop where
  /-- A split is that of the sheet that is kept for the same type. -/
  splits : ∀ key p, c.splits.get? key = some p →
    ∃ s, c.sheets.get? key = some s ∧ p.value = s.value.split
  /-- A style in a sheet is the kept instance of its class. -/
  styles : ∀ key s, c.sheets.get? key = some s → ∀ style ∈ s.value.styles,
    ∃ k, program.isStyle k ∧ IsInstance k style ∧ c.styles.get? k.key = some style

theorem SameStyle.kept_of_sound {s s₀ : Style} (same : SameStyle c c₀ s s₀)
    (sound : Sound program c) :
    ∃ k, program.isStyle k ∧ IsInstance k s ∧ c.styles.get? k.key = some s := by
  obtain ⟨key, _, kept, _⟩ := same.kept
  obtain ⟨k, isStyle, rfl, isInstance⟩ := sound.styles key s kept
  exact ⟨k, isStyle, isInstance, kept⟩

theorem Faithful.consistent (faithful : Faithful program c) : Consistent program c := by
  refine ⟨faithful.splits, fun key s found style member => ?_⟩
  obtain ⟨t, _, _, sheet₀, c₀, _, same⟩ := faithful.sheets key s found
  obtain ⟨column, isColumn, isStyle⟩ := List.mem_flatMap.mp member
  obtain ⟨_, _, sameColumn⟩ := exists_of_mem_right same.columns.flip isColumn
  rcases List.mem_append.mp isStyle with own | ofRule
  · simp only [List.mem_cons, List.not_mem_nil, or_false] at own
    rcases own with rfl | rfl | rfl
    · exact sameColumn.headerStyle.kept_of_sound faithful.sound
    · exact sameColumn.columnStyle.kept_of_sound faithful.sound
    · exact sameColumn.mergeHeaderStyle.kept_of_sound faithful.sound
  · obtain ⟨rule, isRule, rfl⟩ := List.mem_map.mp ofRule
    obtain ⟨_, _, sameRule⟩ := exists_of_mem_right sameColumn.rules.flip isRule
    exact sameRule.style.kept_of_sound faithful.sound

/-- **Whatever was requested before, a request is answered as on an empty catalog**: it fails in the
same way, leaving sheets and splits as they were, or has the same answer. What is kept fits
together. -/
theorem answers_agree {earlier : List Request} {r : Request}
    (isOf : ∀ r' ∈ r :: earlier, r'.IsOf program) :
    Answered program SameAnswer r.answer (afterAll earlier) ∧
      Consistent program (afterAll earlier) := by
  have faithful : Faithful program (afterAll earlier) :=
    faithful_afterAll fun r' member => isOf r' (List.mem_cons_of_mem _ member)
  exact ⟨answered_answer faithful (isOf r List.mem_cons_self), faithful.consistent⟩

/-! ### A program of one type -/

/-- The declaration of a column with a rule, which shows whole records. -/
def ratedColumn : ColumnSpec :=
  { header := "Stars", accessor := some .display, rules := [⟨.text "value > 3", .plain, 0⟩] }

/-- A type with this column. -/
def ratedType : RecordType :=
  { RecordType.ofName "Rating" with
    source := .schema ⟨some { name := "Ratings" },
      [{ name := "stars", column := some ratedColumn }]⟩ }

/-- The program that has this type, and no styles but those that are always there. -/
def ratedProgram : Program where
  isStyle k := k ∈ StyleClass.stock
  isType t := t = ratedType
  style_unique isStyle isStyle' same := List.inj_on_of_nodup_map (by decide) isStyle isStyle' same
  type_unique isType isType' _ := isType.trans isType'.symm
  stock _ member := member
  declares := by
    rintro t rfl k member
    have plain : k = .plain := by
      simpa [RecordType.styleClasses, ratedType, fieldStyleClasses, SheetSpec.styleClasses,
        ColumnSpec.styleClasses, ratedColumn] using member
    rw [plain]
    exact List.mem_cons_self
  steady := by
    intro k isStyle attempt
    simp only [StyleClass.stock, List.mem_cons, List.not_mem_nil, or_false] at isStyle
    rcases isStyle with rfl | rfl | rfl | rfl <;> rfl

/-- The type is described again after everything was forgotten. -/
theorem answers_agree_sample :
    let earlier := [.describe ratedType, .compile (.text "value > 3"), .clear, .describe ratedType]
    (∀ r ∈ Request.describeSheets ratedType :: earlier, r.IsOf ratedProgram) ∧
      Answered ratedProgram SameAnswer (Request.describeSheets ratedType).answer
        (afterAll earlier) ∧ Consistent ratedProgram (afterAll earlier) := by
  intro earlier
  have isOf : ∀ r ∈ Request.describeSheets ratedType :: earlier, r.IsOf ratedProgram := by
    simp [earlier, Request.IsOf, ratedProgram]
  exact ⟨isOf, answers_agree isOf⟩

end Catalog

end SheetExport
