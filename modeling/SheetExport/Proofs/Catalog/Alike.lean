/-
**Resolving a record type from two catalogs.**

`Alike program R x y c c₀` says that `x` from `c` and `y` from `c₀` fail in the same way, or both
succeed with results related by `R`, and go onward in any case. Chains and mapped lists of
computations that go alike go alike; `R` speaks of the catalogs in which the results are, and what
is related stays so as catalogs grow.

* `alike_style`, `alike_compile` — from two sound catalogs, styles and conditions are the same;
* `alike_extract`: so are the sheets of a record type of the program.
-/

import SheetExport.Proofs.Catalog.Sameness

namespace SheetExport.Catalog

variable {program : Program} {c c' c₀ c₀' : Catalog}

/-! ### Two runs -/

section Runs

variable {α β : Type} {R Q : Catalog → Catalog → α → α → Prop}
  {S : Catalog → Catalog → β → β → Prop} {x y : CatalogM α} {f g : α → CatalogM β}

/-- Two computations fail alike, or have related results. -/
inductive Alike (program : Program) (R : Catalog → Catalog → α → α → Prop) (x y : CatalogM α)
    (c c₀ : Catalog) : Prop
  | made {a b : α} {c' c₀' : Catalog} (yields : Yields x c a c') (yields₀ : Yields y c₀ b c₀')
    (onward : Onward program c c') (onward₀ : Onward program c₀ c₀') (related : R c' c₀' a b)
  | failed {e : Failure} {c' c₀' : Catalog} (fails : Fails x c e c') (fails₀ : Fails y c₀ e c₀')
    (onward : Onward program c c') (onward₀ : Onward program c₀ c₀')

theorem Alike.pure {a b : α} (sound : Sound program c) (sound₀ : Sound program c₀)
    (related : R c c₀ a b) : Alike program R (Pure.pure a) (Pure.pure b) c c₀ :=
  .made (.pure a c) (.pure b c₀) (.refl sound) (.refl sound₀) related

theorem Alike.throw (e : Failure) (sound : Sound program c) (sound₀ : Sound program c₀) :
    Alike program R (MonadExcept.throw e) (MonadExcept.throw e) c c₀ :=
  .failed (fails_throw_iff.mpr ⟨rfl, rfl⟩) (fails_throw_iff.mpr ⟨rfl, rfl⟩) (.refl sound)
    (.refl sound₀)

/-- What is chained goes alike if the parts do, from wherever the first one leads. -/
theorem Alike.bind (first : Alike program Q x y c c₀)
    (second : ∀ a b c' c₀', Onward program c c' → Onward program c₀ c₀' → Q c' c₀' a b →
      Alike program S (f a) (g b) c' c₀') : Alike program S (x >>= f) (y >>= g) c c₀ := by
  cases first with
  | failed fails fails₀ onward onward₀ =>
    exact .failed (fails_bind_iff.mpr (Or.inl fails)) (fails_bind_iff.mpr (Or.inl fails₀))
      onward onward₀
  | made yields yields₀ onward onward₀ related =>
    cases second _ _ _ _ onward onward₀ related with
    | failed fails fails₀ onward' onward₀' =>
      exact .failed (fails_bind_iff.mpr (Or.inr ⟨_, _, yields, fails⟩))
        (fails_bind_iff.mpr (Or.inr ⟨_, _, yields₀, fails₀⟩)) (onward.trans onward')
        (onward₀.trans onward₀')
    | made yields' yields₀' onward' onward₀' related' =>
      exact .made (yields.bind yields') (yields₀.bind yields₀') (onward.trans onward')
        (onward₀.trans onward₀') related'

theorem Alike.throw_bind (e : Failure) (sound : Sound program c) (sound₀ : Sound program c₀) :
    Alike program S ((MonadExcept.throw e : CatalogM α) >>= f)
      ((MonadExcept.throw e : CatalogM α) >>= g) c c₀ :=
  .bind (Q := fun _ _ _ _ => False) (.throw e sound sound₀) fun _ _ _ _ _ _ no => no.elim

/-- What stays related as catalogs grow. -/
def Stays (R : Catalog → Catalog → α → α → Prop) : Prop :=
  ∀ ⦃c c' c₀ c₀' a b⦄, Grows c c' → Grows c₀ c₀' → R c c₀ a b → R c' c₀' a b

theorem Alike.mapM {as : List α} (stays : Stays S) (sound : Sound program c)
    (sound₀ : Sound program c₀) (each : ∀ a ∈ as, ∀ c c₀, Sound program c → Sound program c₀ →
      Alike program S (f a) (f a) c c₀) :
    Alike program (fun c c₀ => List.Forall₂ (S c c₀)) (as.mapM f) (as.mapM f) c c₀ := by
  induction as generalizing c c₀ with
  | nil => exact .pure sound sound₀ .nil
  | cons a as ih =>
    rw [List.mapM_cons]
    refine .bind (each a List.mem_cons_self c c₀ sound sound₀) ?_
    intro b b₀ c' c₀' onward onward₀ related
    refine .bind (ih onward.sound onward₀.sound
      fun a' member => each a' (List.mem_cons_of_mem _ member)) ?_
    intro bs bs₀ c'' c₀'' onward' onward₀' others
    exact .pure onward'.sound onward₀'.sound
      (.cons (stays onward'.grows onward₀'.grows related) others)

theorem Alike.noting (alike : Alike program R x y c c₀) (note : String) :
    Alike program R (noting note x) (noting note y) c c₀ := by
  cases alike with
  | made yields yields₀ onward onward₀ related =>
    refine .made ?_ ?_ onward onward₀ related
    · rw [Yields, run_noting, yields]
    · rw [Yields, run_noting, yields₀]
  | @failed e _ _ fails fails₀ onward onward₀ =>
    refine .failed (e := e.addNote note) ?_ ?_ onward onward₀
    · rw [Fails, run_noting, fails]
    · rw [Fails, run_noting, fails₀]

/-- Two runs to outcomes that exclude each other are alike. -/
theorem Alike.of_settles {P : Catalog → α → Prop} {E : Failure → Prop}
    (settles : Settles program c x P E) (settles₀ : Settles program c₀ y P E)
    (related : ∀ c c₀ a b, P c a → P c₀ b → R c c₀ a b) (apart : ∀ c a e, P c a → ¬ E e)
    (one : ∀ e e', E e → E e' → e = e') : Alike program R x y c c₀ := by
  cases settles with
  | made yields onward result =>
    cases settles₀ with
    | made yields₀ onward₀ result₀ =>
      exact .made yields yields₀ onward onward₀ (related _ _ _ _ result result₀)
    | failed _ _ failure => exact absurd failure (apart _ _ _ result)
  | failed fails onward failure =>
    cases settles₀ with
    | made _ _ result₀ => exact absurd failure (apart _ _ _ result₀)
    | failed fails₀ onward₀ failure₀ =>
      cases one _ _ failure failure₀
      exact .failed fails fails₀ onward onward₀

end Runs

/-! ### Styles and conditions -/

section Parts

variable (sound : Sound program c) (sound₀ : Sound program c₀)

include sound sound₀

/-- **A style class is used alike.** -/
theorem alike_style {k : StyleClass} (isStyle : program.isStyle k) :
    Alike program SameStyle (style k) (style k) c c₀ := by
  refine .of_settles (style_settles sound isStyle) (style_settles sound₀ isStyle) ?_ ?_ ?_
  · rintro c c₀ s s₀ ⟨isInstance, kept⟩ ⟨isInstance₀, kept₀⟩
    refine ⟨⟨k.key, isInstance.name.symm, kept, kept₀⟩, ?_, ?_⟩
    · rw [isInstance.name, isInstance₀.name]
    · exact Except.ok.inj (isInstance.spec.symm.trans isInstance₀.spec)
  · rintro c s e ⟨isInstance, _⟩ ⟨defect, _, configured⟩
    rw [isInstance.spec] at configured
    cases configured
  · rintro e e' ⟨defect, rfl, configured⟩ ⟨defect', rfl, configured'⟩
    rw [configured] at configured'
    rw [Except.error.inj configured']

/-- **A condition is compiled alike.** -/
theorem alike_compile (v : Value) : Alike program (fun _ _ k k₀ => k.value = k₀.value)
    (compile v) (compile v) c c₀ := by
  refine .of_settles (compile_settles sound v) (compile_settles sound₀ v) ?_ ?_ ?_
  · intro _ _ k k₀ value value₀
    exact Except.ok.inj (value.symm.trans value₀)
  · intro _ k e value failed
    rw [value] at failed
    cases failed
  · intro e e' failed failed'
    exact Except.error.inj (failed.symm.trans failed')

/-! ### Precedence of styles -/

variable {column : ColumnSpec} {sheet : SheetSpec}
  (columnStyles : ∀ k ∈ column.styleClasses, program.isStyle k)
  (sheetStyles : ∀ k ∈ sheet.styleClasses, program.isStyle k)

include columnStyles sheetStyles

theorem alike_headerStyle :
    Alike program SameStyle (headerStyle column sheet) (headerStyle column sheet) c c₀ := by
  unfold headerStyle
  split
  · rename_i k own
    exact alike_style sound sound₀ (columnStyles k (ColumnSpec.mem_styleClasses.mpr (Or.inl own)))
  · rename_i k _ ofSheet
    exact alike_style sound sound₀ (sheetStyles k (SheetSpec.mem_styleClasses.mpr (Or.inl ofSheet)))
  · exact alike_style sound sound₀ (program.stock _ (by simp [StyleClass.stock]))

theorem alike_columnStyle (kind : FieldKind) : Alike program SameStyle
    (columnStyle column sheet kind) (columnStyle column sheet kind) c c₀ := by
  unfold columnStyle
  split
  · rename_i k own
    exact alike_style sound sound₀
      (columnStyles k (ColumnSpec.mem_styleClasses.mpr (Or.inr (Or.inl own))))
  · rename_i k _ ofSheet
    exact alike_style sound sound₀ (sheetStyles k (SheetSpec.mem_styleClasses.mpr (Or.inr ofSheet)))
  · refine alike_style sound sound₀ (program.stock _ ?_)
    split <;> simp [StyleClass.stock]

theorem alike_mergeHeaderStyle : Alike program SameStyle
    (mergeHeaderStyle column sheet) (mergeHeaderStyle column sheet) c c₀ := by
  unfold mergeHeaderStyle
  split
  · rename_i k own
    exact alike_style sound sound₀
      (columnStyles k (ColumnSpec.mem_styleClasses.mpr (Or.inr (Or.inr (Or.inl own)))))
  · exact alike_headerStyle sound sound₀ columnStyles sheetStyles

end Parts

section Rules

variable (sound : Sound program c) (sound₀ : Sound program c₀)

include sound sound₀

theorem alike_compileRules {specs : List RuleSpec}
    (styles : ∀ spec ∈ specs, program.isStyle spec.style) :
    Alike program (fun c c₀ => List.Forall₂ (SameRule c c₀)) (compileRules compile specs)
      (compileRules compile specs) c c₀ := by
  unfold compileRules
  refine .bind (.mapM (S := SameRule) ?_ sound sound₀ fun spec member c c₀ sound sound₀ => ?_) ?_
  · intro c c' c₀ c₀' r r₀ grows grows₀ same
    exact same.mono grows grows₀
  · refine .bind (alike_compile sound sound₀ spec.condition) ?_
    intro k k₀ c₁ c₂ onward onward₀ conditions
    refine .bind (alike_style onward.sound onward₀.sound (styles spec member)) ?_
    intro s s₀ c₃ c₄ onward' onward₀' same
    exact .pure onward'.sound onward₀'.sound ⟨conditions, same, rfl⟩
  · intro rules rules₀ c' c₀' onward onward₀ same
    exact .pure onward.sound onward₀.sound (inEvaluationOrder_same same)

end Rules

/-! ### Declarations -/

/-- What a type declares, with styles of the program only. -/
structure Declares (program : Program) (sheet : SheetSpec) (bindings : List Binding) : Prop where
  sheet : ∀ k ∈ sheet.styleClasses, program.isStyle k
  columns : ∀ b ∈ bindings, ∀ column, b.column = some column →
    ∀ k ∈ column.styleClasses, program.isStyle k

theorem declares_of_styles {sheet : SheetSpec} {bindings : List Binding}
    (styles : ∀ k ∈ sheet.styleClasses ++ fieldStyleClasses bindings, program.isStyle k) :
    Declares program sheet bindings := by
  refine ⟨fun k member => styles k (List.mem_append_left _ member), ?_⟩
  intro b isField column declared k member
  refine styles k (List.mem_append_right _ (List.mem_flatMap.mpr ⟨b, isField, ?_⟩))
  rw [declared]
  simpa using member

/-- Resolving the types of fields leaves their columns as they are. -/
theorem Declares.mapType {sheet : SheetSpec} {bindings : List Binding}
    (declares : Declares program sheet bindings) (resolve : Binding → FieldType) :
    Declares program sheet (bindings.map fun b => { b with type := resolve b }) := by
  refine ⟨declares.sheet, fun b isField column declared => ?_⟩
  obtain ⟨original, isOriginal, rfl⟩ := List.mem_map.mp isField
  exact declares.columns original isOriginal column declared

/-- The columns that are selected declare styles of the program only. -/
theorem Declares.selected {sheet : SheetSpec} {bindings : List Binding}
    (declares : Declares program sheet bindings) (autoColumn : Bool) (position : Int) :
    ∀ p ∈ selectColumns autoColumn position bindings,
      ∀ k ∈ p.2.styleClasses, program.isStyle k := by
  induction bindings generalizing position with
  | nil =>
    intro p member
    cases member
  | cons b rest ih =>
    have later : Declares program sheet rest :=
      ⟨declares.sheet, fun b' member => declares.columns b' (List.mem_cons_of_mem _ member)⟩
    unfold selectColumns
    split
    · rename_i column declared
      split
      · exact ih later position
      · intro p member
        rcases List.mem_cons.mp member with rfl | inRest
        · exact declares.columns b List.mem_cons_self column declared
        · exact ih later _ p inRest
    · split
      · intro p member
        rcases List.mem_cons.mp member with rfl | inRest
        · intro k inNone
          simp [ColumnSpec.styleClasses] at inNone
        · exact ih later _ p inRest
      · exact ih later position

section Extraction

variable (sound : Sound program c) (sound₀ : Sound program c₀) {t : RecordType}

include sound sound₀

theorem alike_warn (w : Warning) :
    Alike program (fun _ _ _ _ => True) (warn w) (warn w) c c₀ :=
  .made (a := ⟨⟩) (b := ⟨⟩) rfl rfl (sound.onward rfl rfl) (sound₀.onward rfl rfl) trivial

theorem alike_resolveBindings {sheet : SheetSpec} (declares : Declares program sheet t.bindings) :
    Alike program (fun _ _ bindings bindings₀ => bindings₀ = bindings ∧
      Declares program sheet bindings) (resolveBindings t) (resolveBindings t) c c₀ := by
  unfold resolveBindings
  split
  · exact .pure sound sound₀ ⟨rfl, declares.mapType _⟩
  · split
    · exact .throw_bind _ sound sound₀
    · refine .bind (alike_warn sound sound₀ _) ?_
      intro _ _ c' c₀' onward onward₀ _
      exact .pure onward.sound onward₀.sound ⟨rfl, declares⟩

/-- **A type declares the same each time.** -/
theorem alike_readSheet (isType : program.isType t) :
    Alike program (fun _ _ p p₀ => p₀ = p ∧ Declares program p.1 p.2)
      (readSheet t) (readSheet t) c c₀ := by
  have styles := program.declares isType
  unfold RecordType.styleClasses at styles
  unfold readSheet readSchema
  refine .bind (Q := fun _ _ s s₀ => s₀ = s ∧
    ∀ spec, s.sheet = some spec → Declares program spec s.bindings) ?_ ?_
  · split
    · exact .throw _ sound sound₀
    · split <;> exact .throw _ sound sound₀
    · rename_i schema source
      rw [source] at styles
      refine .pure sound sound₀ ⟨rfl, fun spec declared => declares_of_styles ?_⟩
      simpa [declared] using styles
    · rename_i spec source
      rw [source] at styles
      refine .bind (alike_resolveBindings sound sound₀ (declares_of_styles styles)) ?_
      rintro bindings _ c' c₀' onward onward₀ ⟨rfl, declares⟩
      refine .pure onward.sound onward₀.sound ⟨rfl, fun spec' same => ?_⟩
      cases same
      exact declares
  · rintro s _ c' c₀' onward onward₀ ⟨rfl, declares⟩
    split
    · rename_i spec declared
      exact .pure onward.sound onward₀.sound ⟨rfl, declares spec declared⟩
    · exact .throw _ onward.sound onward₀.sound

/-- **A column is made alike.** -/
theorem alike_makeColumn (t : RecordType) {sheet : SheetSpec} (b : Binding) {spec : ColumnSpec}
    (sheetStyles : ∀ k ∈ sheet.styleClasses, program.isStyle k)
    (columnStyles : ∀ k ∈ spec.styleClasses, program.isStyle k) :
    Alike program SameColumn (makeColumn t sheet b spec) (makeColumn t sheet b spec) c c₀ := by
  have ruleStyles : ∀ rule ∈ spec.rules, program.isStyle rule.style := fun rule member =>
    columnStyles _ (ColumnSpec.mem_styleClasses.mpr (Or.inr (Or.inr (Or.inr ⟨rule, member, rfl⟩))))
  unfold makeColumn
  dsimp only
  split
  · exact .throw _ sound sound₀
  · refine .bind (alike_columnStyle sound sound₀ columnStyles sheetStyles _) ?_
    intro cells cells₀ c₁ c₂ onward₁ onward₂ sameCells
    refine .bind (.noting (alike_compileRules onward₁.sound onward₂.sound ruleStyles) _) ?_
    intro rules rules₀ c₃ c₄ onward₃ onward₄ sameRules
    refine .bind (alike_headerStyle onward₃.sound onward₄.sound columnStyles sheetStyles) ?_
    intro headers headers₀ c₅ c₆ onward₅ onward₆ sameHeaders
    refine .bind (alike_mergeHeaderStyle onward₅.sound onward₆.sound columnStyles sheetStyles) ?_
    intro labels labels₀ c₇ c₈ onward₇ onward₈ sameLabels
    -- Everything that was made on the way is still kept at the end.
    have later := onward₅.trans onward₇
    have later₀ := onward₆.trans onward₈
    refine .pure onward₇.sound onward₈.sound ⟨?_, ?_, ?_, sameLabels, ?_⟩
    · unfold Column.outline
      rw [sameCells.width]
    · exact sameHeaders.mono onward₇.grows onward₈.grows
    · exact sameCells.mono (onward₃.trans later).grows (onward₄.trans later₀).grows
    · exact sameRules.imp fun _ _ rule => rule.mono later.grows later₀.grows

theorem alike_extractColumns (isType : program.isType t) :
    Alike program (fun c c₀ p p₀ => p₀.1 = p.1 ∧ List.Forall₂ (SameColumn c c₀) p.2 p₀.2)
      (extractColumns t) (extractColumns t) c c₀ := by
  refine .bind (alike_readSheet sound sound₀ isType) ?_
  rintro ⟨sheet, bindings⟩ _ c₁ c₂ onward₁ onward₂ ⟨rfl, declares⟩
  refine .bind (.mapM (S := SameColumn) ?_ onward₁.sound onward₂.sound ?_) ?_
  · intro c c' c₀ c₀' a b grows grows₀ same
    exact same.mono grows grows₀
  · intro p member c c₀ sound sound₀
    exact alike_makeColumn sound sound₀ t p.1 declares.sheet (declares.selected _ _ p member)
  · intro made made₀ c₃ c₄ onward₃ onward₄ same
    have sorted := sortColumns_same same
    have labels : checkLabels t.title sheet.name (sortColumns made₀) =
        checkLabels t.title sheet.name (sortColumns made) :=
      (checkLabels_congr (map_outline_of_same sorted)).symm
    have empty : made₀.isEmpty = made.isEmpty := by
      cases same <;> rfl
    dsimp only
    rw [empty, labels]
    split
    · exact .throw_bind _ onward₃.sound onward₄.sound
    · split
      · exact .throw _ onward₃.sound onward₄.sound
      · exact .pure onward₃.sound onward₄.sound ⟨rfl, sorted⟩

/-- **The sheet of a type is extracted alike.** -/
theorem alike_extract (isType : program.isType t) :
    Alike program SameSheet (extract t) (extract t) c c₀ := by
  refine .bind (alike_extractColumns sound sound₀ isType) ?_
  rintro ⟨sheet, columns⟩ ⟨_, columns₀⟩ c' c₀' onward onward₀ ⟨rfl, same⟩
  exact .pure onward.sound onward₀.sound ⟨rfl, same, rfl, rfl⟩

end Extraction

end SheetExport.Catalog
