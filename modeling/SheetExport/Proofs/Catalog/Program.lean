/-
**Programs whose classes behave the same on every call.**

* `Program` — the style classes and the record types of a program: a key stands for one class, every
  style that a type declares is one of them, and configuring a style gives the same each time;
* `Sound program catalog` — what the catalog keeps for a style class is an instance of it, and what
  it keeps for a text is the condition that the text writes;
* `Onward program c c'` — `c'` is sound and keeps all styles of `c`;
* `style_settles`, `compile_settles`: from a sound catalog, using a style and compiling a condition
  have the outcome that the class and the value decide, and go onward.
-/

import SheetExport.Proofs.Catalog.Keeping

namespace SheetExport

/-! ### Declared styles -/

/-- The style classes that a column declares. -/
def ColumnSpec.styleClasses (c : ColumnSpec) : List StyleClass :=
  c.headerStyle.toList ++ c.columnStyle.toList ++ c.mergeHeaderStyle.toList ++
    c.rules.map RuleSpec.style

/-- The style classes that a sheet declares. -/
def SheetSpec.styleClasses (s : SheetSpec) : List StyleClass :=
  s.headerStyle.toList ++ s.columnStyle.toList

theorem ColumnSpec.mem_styleClasses {c : ColumnSpec} {k : StyleClass} : k ∈ c.styleClasses ↔
    c.headerStyle = some k ∨ c.columnStyle = some k ∨ c.mergeHeaderStyle = some k ∨
      ∃ r ∈ c.rules, r.style = k := by
  simp [styleClasses]

theorem SheetSpec.mem_styleClasses {s : SheetSpec} {k : StyleClass} :
    k ∈ s.styleClasses ↔ s.headerStyle = some k ∨ s.columnStyle = some k := by
  simp [styleClasses]

/-- The style classes that fields declare. -/
def fieldStyleClasses (bindings : List Binding) : List StyleClass :=
  bindings.flatMap fun b => b.column.toList.flatMap ColumnSpec.styleClasses

/-- The style classes that a record type declares for its sheet and its fields. -/
def RecordType.styleClasses (t : RecordType) : List StyleClass :=
  match t.source with
  | .undeclared | .asked _ => []
  | .sheet spec => spec.styleClasses ++ fieldStyleClasses t.bindings
  | .schema schema =>
    schema.sheet.toList.flatMap SheetSpec.styleClasses ++ fieldStyleClasses schema.bindings

/-- The classes of a program, each known by its key, whose own code does the same on every call. -/
structure Program where
  isStyle : StyleClass → Prop
  isType : RecordType → Prop
  /-- A key stands for one style class. -/
  style_unique : ∀ {j k : StyleClass}, isStyle j → isStyle k → j.key = k.key → j = k
  /-- A key stands for one record type. -/
  type_unique : ∀ {t u : RecordType}, isType t → isType u → t.key = u.key → t = u
  /-- The default styles are always there. -/
  stock : ∀ k ∈ StyleClass.stock, isStyle k
  /-- The styles that types declare are those of the program. -/
  declares : ∀ {t : RecordType}, isType t → ∀ k ∈ t.styleClasses, isStyle k
  /-- A style is configured alike each time. -/
  steady : ∀ {k : StyleClass}, isStyle k → ∀ attempt, k.configure (attempt + 1) = k.configure 1

namespace Catalog

variable {program : Program} {c c' c'' : Catalog}

/-! ### Sound catalogs -/

/-- The instance of a style class. -/
structure IsInstance (k : StyleClass) (s : Style) : Prop where
  name : s.name = k.name
  spec : k.configure 1 = .ok s.spec

/-- Styles and conditions are kept for what they were made from. -/
structure Sound (program : Program) (c : Catalog) : Prop where
  styles : ∀ key s, c.styles.get? key = some s →
    ∃ k, program.isStyle k ∧ k.key = key ∧ IsInstance k s
  conditions : ∀ source k, c.conditions.get? source = some k → Condition.parse source = .ok k.value

theorem sound_empty (program : Program) : Sound program .empty :=
  ⟨fun _ _ found => (Option.some_ne_none _ found.symm).elim,
    fun _ _ found => (Option.some_ne_none _ found.symm).elim⟩

theorem Sound.congr (sound : Sound program c) (styles : c'.styles = c.styles)
    (conditions : c'.conditions = c.conditions) : Sound program c' := by
  constructor
  · rw [styles]
    exact sound.styles
  · rw [conditions]
    exact sound.conditions

/-- A later catalog keeps all styles of an earlier one. -/
def Grows (c c' : Catalog) : Prop :=
  ∀ key s, c.styles.get? key = some s → c'.styles.get? key = some s

/-- The catalog is sound, and keeps all styles of an earlier one. -/
structure Onward (program : Program) (c c' : Catalog) : Prop where
  sound : Sound program c'
  grows : Grows c c'

theorem Onward.refl (sound : Sound program c) : Onward program c c := ⟨sound, fun _ _ => id⟩

theorem Onward.trans (first : Onward program c c') (second : Onward program c' c'') :
    Onward program c c'' :=
  ⟨second.sound, fun key s found => second.grows key s (first.grows key s found)⟩

theorem Sound.onward (sound : Sound program c) (styles : c'.styles = c.styles)
    (conditions : c'.conditions = c.conditions) : Onward program c c' :=
  ⟨sound.congr styles conditions, fun key s found => by rw [styles]; exact found⟩

/-- A computation goes onward, to a result or to a failure of a kind. -/
inductive Settles {α : Type} (program : Program) (c : Catalog) (x : CatalogM α)
    (P : Catalog → α → Prop) (E : Failure → Prop) : Prop
  | made {a : α} {c' : Catalog} (yields : Yields x c a c') (onward : Onward program c c')
    (result : P c' a)
  | failed {e : Failure} {c' : Catalog} (fails : Fails x c e c') (onward : Onward program c c')
    (failure : E e)

/-! ### Using a style -/

/-- A catalog with a further instance of a style class. -/
theorem Sound.putStyle (sound : Sound program c) {k : StyleClass} (isStyle : program.isStyle k)
    {s : Style} (isInstance : IsInstance k s) :
    Onward program c (styleShelf.write ((styleShelf.read c).publish k.key s).2 c) := by
  refine ⟨⟨fun key made found => ?_, sound.conditions⟩, fun key made found => ?_⟩
  · rcases Cache.of_get?_publish found with kept | ⟨rfl, rfl⟩
    · exact sound.styles key made kept
    · exact ⟨k, isStyle, rfl, isInstance⟩
  · exact Cache.get?_publish_of_some found

/-- **How a style is configured decides the outcome of using it**, whatever the catalog keeps. -/
theorem style_settles (sound : Sound program c) {k : StyleClass} (isStyle : program.isStyle k) :
    Settles program c (style k)
      (fun c' s => IsInstance k s ∧ c'.styles.get? k.key = some s)
      (fun e => ∃ defect, e = .style defect ∧ k.configure 1 = .error defect) := by
  cases found : c.styles.get? k.key with
  | some s =>
    obtain ⟨j, isStyle', sameKey, isInstance⟩ := sound.styles k.key s found
    cases program.style_unique isStyle' isStyle sameKey
    exact .made (yields_once_kept found) (.refl sound) ⟨isInstance, found⟩
  | none =>
    obtain ⟨attempt, attempts, made⟩ := run_makeStyle k c
    rw [program.steady isStyle] at made
    cases configured : k.configure 1 with
    | error defect =>
      rw [configured] at made
      exact .failed (fails_once found made) (sound.onward rfl rfl) ⟨defect, rfl, rfl⟩
    | ok spec =>
      rw [configured] at made
      have moved : Onward program c
          { c with attempts, nextStamp := c.nextStamp + 1 } := sound.onward rfl rfl
      refine .made (yields_once_made found made found)
        (moved.trans (moved.sound.putStyle isStyle ⟨rfl, configured⟩)) ⟨⟨rfl, configured⟩, ?_⟩
      show (Cache.publish _ _ _).2.get? k.key = _
      rw [Cache.get?_publish, if_pos rfl]
      show some ((c.styles.get? k.key).getD _) = _
      rw [found]
      rfl

/-! ### Compiling a condition -/

/-- The condition that a value writes, or why it writes none. -/
def compiled (v : Value) : Except Failure Condition :=
  match v with
  | .decimal (.undefined _ true _) => .error (.fault .unusableKey)
  | _ => Condition.ofValue v

/-- A catalog with a further condition. -/
theorem Sound.putCondition (sound : Sound program c) {source : String} {k : Stamped Condition}
    (parsed : Condition.parse source = .ok k.value) : Onward program c
      (conditionShelf.write ((conditionShelf.read c).publish source k).2 c) := by
  refine ⟨⟨sound.styles, fun key made found => ?_⟩, fun _ _ => id⟩
  rcases Cache.of_get?_publish found with kept | ⟨rfl, rfl⟩
  · exact sound.conditions key made kept
  · exact parsed

theorem compileAnew_settles (sound : Sound program c) (v : Value) :
    Settles program c (compileAnew v) (fun c' k => Condition.ofValue v = .ok k.value ∧
      c'.conditions = c.conditions) (fun e => Condition.ofValue v = .error e) := by
  have anew := run_compileAnew v c
  cases outcome : Condition.ofValue v with
  | error e =>
    rw [outcome] at anew
    exact .failed anew (.refl sound) rfl
  | ok k =>
    rw [outcome] at anew
    exact .made anew (sound.onward rfl rfl) ⟨rfl, rfl⟩

/-- **The value that writes a condition decides the outcome of compiling it**, whatever the catalog
keeps. -/
theorem compile_settles (sound : Sound program c) (v : Value) :
    Settles program c (compile v) (fun _ k => compiled v = .ok k.value)
      (fun e => compiled v = .error e) := by
  unfold compile
  split
  · exact .failed rfl (.refl sound) rfl
  · rename_i usable
    have same : compiled v = Condition.ofValue v := by
      unfold compiled
      split
      · exact (usable _ _ rfl).elim
      · rfl
    rw [same]
    split
    · rename_i source text
      cases found : c.conditions.get? source with
      | some k =>
        refine .made (yields_once_kept found) (.refl sound) ?_
        exact (ofValue_eq_ok_iff text).mpr (sound.conditions source k found)
      | none =>
        cases compileAnew_settles sound v with
        | failed fails onward failure => exact .failed (fails_once found fails) onward failure
        | @made k c' yields onward result =>
          have still : c'.conditions.get? source = none := by rw [result.2, found]
          refine .made (yields_once_made found yields still) (onward.trans ?_) result.1
          exact onward.sound.putCondition ((ofValue_eq_ok_iff text).mp result.1)
    · cases compileAnew_settles sound v with
      | failed fails onward failure => exact .failed fails onward failure
      | made yields onward result => exact .made yields onward result.1

end Catalog

end SheetExport
