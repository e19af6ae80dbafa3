/-
**Declared record types.**

`RecordType.Declared` holds of the types that declarations make, one derived from another, and of
those that are given a sheet or a schema. A type with a sheet has fields that its records are made
of (`Declared.isStructured`), these have names without points (`Declared.notMem_of_field`), and
unless a member sets the attributes, a constructor does (`Declared.exists_constructor`). What every
type has is under names without points, too (`notMem_of_inherent?`).
-/

import SheetExport.Record
import SheetExport.Proofs.Outcome
import SheetExport.Proofs.Text.Parts

namespace SheetExport

/-! ### Words -/

theorem words_eq (s : String) : Annotation.words s = (Text.parts ' ' s.toList).map String.ofList :=
  Text.splitOn_eq_parts ' ' s

/-- The words of a text have the characters of the text. -/
theorem mem_of_mem_words {s word : String} {c : Char} (isWord : word ∈ Annotation.words s)
    (isChar : c ∈ word.toList) : c ∈ s.toList := by
  rw [words_eq] at isWord
  obtain ⟨part, isPart, rfl⟩ := List.mem_map.mp isWord
  rw [String.toList_ofList] at isChar
  exact (Text.mem_and_ne_of_mem_parts isPart isChar).1

/-- An identifier has no point. -/
theorem notMem_of_isIdentifier {cs : List Char} (identifier : Annotation.isIdentifier cs = true) :
    '.' ∉ cs := by
  cases cs with
  | nil => exact List.not_mem_nil
  | cons c rest =>
    obtain ⟨starts, continues⟩ := Bool.and_eq_true_iff.mp identifier
    intro isChar
    obtain isFirst | isLater := List.mem_cons.mp isChar
    · rw [← isFirst] at starts
      exact absurd starts (by decide +kernel)
    · exact absurd (List.all_eq_true.mp continues '.' isLater) (by decide +kernel)

theorem mem_of_lookup {α : Type} {entries : List (String × α)} {name : String} {a : α}
    (found : entries.lookup name = some a) : (name, a) ∈ entries := by
  obtain ⟨before, after, split, -⟩ := List.lookup_eq_some_iff.mp found
  rw [split]
  exact List.mem_append_right before List.mem_cons_self

namespace RecordType

/-! ### What every type has -/

section Inherent

variable {t : RecordType} {name : String} {i : Inherent}

theorem of_structuredInherent? (found : structuredInherent? name = some i) :
    '.' ∉ name.toList ∧ (i = .display → name = "__repr__") := by
  unfold structuredInherent? at found
  split at found <;> cases found
  all_goals exact ⟨by decide +kernel, fun same => by first | rfl | cases same⟩

theorem notMem_of_inherentFunctions (isWord : name ∈ inherentFunctions) : '.' ∉ name.toList := by
  intro isChar
  have absurdly := mem_of_mem_words isWord isChar
  simp only [String.toList_append] at absurdly
  exact absurd absurdly (by decide +kernel)

theorem notMem_of_hiddenNames (isWord : name ∈ hiddenNames) : '.' ∉ name.toList := by
  intro isChar
  have absurdly := mem_of_mem_words isWord isChar
  simp only [String.toList_append] at absurdly
  exact absurd absurdly (by decide +kernel)

/-- What all types have are values, apart from what only the types themselves have. -/
theorem exists_value_of_plain (found : inherent?.plain t name = some i) :
    (∃ v, i = .value v) ∨ i = .hidden := by
  unfold inherent?.plain at found
  split_ifs at found
  all_goals cases found
  all_goals first
    | exact Or.inl ⟨_, rfl⟩
    | exact Or.inr rfl

theorem notMem_of_plain (found : inherent?.plain t name = some i) : '.' ∉ name.toList := by
  have few : ∀ s ∈ ["__class__", "__module__", "__weakref__", "__doc__", "__annotations__",
      "__dict__"], '.' ∉ s.toList := by decide +kernel
  unfold inherent?.plain at found
  split_ifs at found with named named named named named named function hidden
  all_goals first
    | exact notMem_of_inherentFunctions (List.contains_iff_mem.mp function)
    | exact notMem_of_hiddenNames (List.contains_iff_mem.mp hidden)
    | exact few name (by simp [named])

/-- What every type has comes from its fields, or all types have it, or it is the schema member. -/
theorem inherent?_cases (found : t.inherent? name = some i) :
    (t.isStructured = true ∧ structuredInherent? name = some i) ∨
      inherent?.plain t name = some i ∨ (name = schemaMember ∧ i = .ofType) := by
  unfold inherent? at found
  dsimp only at found
  cases own : (if t.isStructured = true then structuredInherent? name else none) with
  | some j =>
    rw [own] at found
    cases found
    split at own
    · exact Or.inl ⟨‹_›, own⟩
    · cases own
  | none =>
    rw [own] at found
    right
    split at found
    · contradiction
    · exact Or.inl found
    · exact Or.inl found
    · split at found
      · cases found
        exact Or.inr ⟨‹_›, rfl⟩
      · exact Or.inl found

/-- **What every type has is under names without points.** -/
theorem notMem_of_inherent? (found : t.inherent? name = some i) : '.' ∉ name.toList := by
  obtain ⟨-, own⟩ | plain | ⟨rfl, -⟩ := inherent?_cases found
  · exact (of_structuredInherent? own).1
  · exact notMem_of_plain plain
  · decide +kernel

/-- The text of a record comes from a type's fields. -/
theorem eq_of_inherent?_display (found : t.inherent? name = some .display) :
    name = "__repr__" ∧ t.isStructured = true := by
  obtain ⟨structured, own⟩ | plain | ⟨-, other⟩ := inherent?_cases found
  · exact ⟨(of_structuredInherent? own).2 rfl, structured⟩
  · obtain ⟨v, other⟩ | other := exists_value_of_plain plain <;> cases other
  · cases other

/-- Every record has its type, its annotations and its attributes. -/
theorem ne_of_inherent?_hidden (found : t.inherent? name = some .hidden) :
    name ≠ "__class__" ∧ name ≠ "__annotations__" ∧ name ≠ "__dict__" := by
  obtain ⟨-, own⟩ | plain | ⟨-, other⟩ := inherent?_cases found
  · unfold structuredInherent? at own
    split at own <;> cases own
  · refine ⟨?_, ?_, ?_⟩ <;> rintro rfl <;> simp [inherent?.plain, knownText] at plain
  · cases other

end Inherent

/-! ### Declared types -/

/-- The type is declared, on a declared one if it is derived, or it is a declared type that is given
a sheet or a schema. -/
inductive Declared : RecordType → Prop
  | type {d : Declaration} {t : RecordType} (derived : ∀ base, d.base? = some base → Declared base)
    (declared : d.declare = .ok t) : Declared t
  | onSheet {t t' : RecordType} {spec : SheetSpec} (declared : Declared t)
    (given : t.onSheet spec = .ok t') : Declared t'
  | withSchema {t : RecordType} {schema : Schema} (declared : Declared t) :
    Declared (t.withSource (.schema schema))

variable {t t' : RecordType}

theorem of_declare {d : Declaration} (declared : d.declare = .ok t) :
    t = d.type ∧ d.fieldFault? = none := by
  unfold Declaration.declare at declared
  split at declared
  · cases declared
  · obtain ⟨_, -, made⟩ := except_bind_eq_ok_iff.mp declared
    cases fault : d.fieldFault? with
    | some found =>
      rw [fault] at made
      cases made
    | none =>
      rw [fault] at made
      cases made
      exact ⟨rfl, rfl⟩

theorem of_onSheet {spec : SheetSpec} (given : t.onSheet spec = .ok t') :
    t.isStructured = true ∧ t' = t.withSource (.sheet spec) := by
  unfold onSheet at given
  split at given
  · rename_i structured
    cases given
    exact ⟨structured, rfl⟩
  · cases given

/-- What holds of the base of a declaration: a declared type, or one that has nothing. -/
theorem base_cases (d : Declaration) :
    d.base? = some d.base ∨
      d.base = { RecordType.ofName "object" with classes := d.classes } := by
  cases found : d.base? with
  | none =>
    right
    rw [Declaration.base, found]
    rfl
  | some base =>
    left
    rw [Declaration.base, found]
    rfl

/-- **A type with a sheet has fields that its records are made of.** -/
theorem Declared.isStructured (declared : Declared t) {spec : SheetSpec}
    (sheet : t.source = .sheet spec) : t.isStructured = true := by
  induction declared with
  | @type d t derived declared ih =>
    obtain ⟨rfl, -⟩ := of_declare declared
    cases asked : d.member? schemaMember with
    | some m =>
      rw [Declaration.type, asked] at sheet
      cases sheet
    | none =>
      rw [Declaration.type, asked] at sheet
      obtain isBase | nothing := base_cases d
      · have structured := ih d.base isBase sheet
        rw [Declaration.type, structured, Bool.or_true]
      · rw [nothing] at sheet
        cases sheet
  | onSheet _ given _ =>
    obtain ⟨structured, rfl⟩ := of_onSheet given
    exact structured
  | withSchema _ _ => cases sheet

/-- **Fields have names without points.** -/
theorem Declared.notMem_of_field (declared : Declared t) {b : Binding} (field : b ∈ t.bindings) :
    '.' ∉ b.name.toList := by
  induction declared with
  | @type d t derived declared ih =>
    obtain ⟨rfl, noFault⟩ := of_declare declared
    have isField : b ∈ d.bindings := field
    cases structured : d.isStructured with
    | false =>
      rw [Declaration.bindings, if_neg (by simp [structured])] at isField
      obtain isBase | nothing := base_cases d
      · exact ih d.base isBase isField
      · rw [nothing] at isField
        exact absurd isField List.not_mem_nil
    | true =>
      unfold Declaration.fieldFault? at noFault
      rw [if_neg (by simp [structured])] at noFault
      split at noFault
      · cases noFault
      · have named := List.findSome?_eq_none_iff.mp noFault b isField
        unfold Declaration.fieldNameFault? at named
        dsimp only at named
        split at named
        · cases named
        · split at named
          · exact notMem_of_isIdentifier ‹_›
          · split at named <;> cases named
  | onSheet _ given ih =>
    obtain ⟨-, rfl⟩ := of_onSheet given
    exact ih field
  | withSchema _ ih => exact ih field

/-! ### What sets the fields -/

theorem member?_eq_none_iff {name : String} :
    t.member? name = none ↔ ∀ m, (name, m) ∉ t.members := by
  rw [member?, List.lookup_eq_none_iff]
  constructor
  · intro absent m isMember
    simpa using absent (name, m) isMember
  · intro absent entry isMember
    obtain ⟨other, m⟩ := entry
    refine bne_iff_ne.mpr fun same => ?_
    rw [same] at absent
    exact absent m isMember

/-- A member that sets the attributes is kept where it is declared. -/
theorem member?_settingMember_of_type {d : Declaration}
    (absent : d.type.member? settingMember = none) : d.member? settingMember = none := by
  rw [member?_eq_none_iff] at absent
  cases found : d.member? settingMember with
  | none => rfl
  | some m =>
    have isMember : (settingMember, m) ∈ d.ownMembers := by
      refine List.mem_filter.mpr ⟨?_, ?_⟩
      · exact mem_of_lookup found
      · have notConsumed : settingMember ∉ Declaration.consumedNames := by
          rw [Declaration.consumedNames, words_eq]
          decide +kernel
        have notReplaced : settingMember ∉ Declaration.replacedNames := by
          rw [Declaration.replacedNames, words_eq]
          decide +kernel
        have notDoc : (settingMember = "__doc__") = False := by simp [settingMember]
        cases m <;> simp [notConsumed, notReplaced, notDoc]
    exact absurd (List.mem_append_left _ (List.mem_append_left _ isMember)) (absent m)

/-- A type without fields of its own inherits the member that sets the attributes. -/
theorem member?_settingMember_of_base {d : Declaration} (plain : d.isStructured = false)
    (absent : d.type.member? settingMember = none) : d.base.member? settingMember = none := by
  rw [member?_eq_none_iff] at absent ⊢
  intro m isMember
  refine absent m (List.mem_append_right _ (List.mem_filter.mpr ⟨isMember, ?_⟩))
  have notOwn : settingMember ∉ Declaration.ownNames := by
    rw [Declaration.ownNames, words_eq]
    decide +kernel
  simp [notOwn, plain]

/-- Another source takes no other member away than the one that is asked for it. -/
theorem member?_settingMember_of_withSource {source : SchemaSource}
    (absent : (t.withSource source).member? settingMember = none) :
    t.member? settingMember = none := by
  rw [member?_eq_none_iff] at absent ⊢
  intro m isMember
  exact absent m (List.mem_filter.mpr ⟨isMember,
    decide_eq_true (by decide : settingMember ≠ schemaMember)⟩)

/-- **A type with fields and without a member for it has a constructor.** -/
theorem Declared.exists_constructor (declared : Declared t) (structured : t.isStructured = true)
    (absent : t.member? settingMember = none) :
    ∃ constructor, t.constructor? = some constructor := by
  induction declared with
  | @type d t derived declared ih =>
    obtain ⟨rfl, -⟩ := of_declare declared
    have own := member?_settingMember_of_type absent
    have isConstructor : d.type.constructor? = d.constructor? := rfl
    rw [isConstructor, Declaration.constructor?, own, if_neg (by simp)]
    cases plain : d.isStructured with
    | true => exact ⟨_, if_pos rfl⟩
    | false =>
      rw [if_neg (by simp)]
      rw [Declaration.type, plain, Bool.false_or] at structured
      obtain isBase | nothing := base_cases d
      · exact ih d.base isBase structured (member?_settingMember_of_base plain absent)
      · rw [nothing] at structured
        cases structured
  | onSheet _ given ih =>
    obtain ⟨-, rfl⟩ := of_onSheet given
    exact ih structured (member?_settingMember_of_withSource absent)
  | withSchema _ ih => exact ih structured (member?_settingMember_of_withSource absent)

end RecordType

end SheetExport
