/-
**Reading records by the names that are accepted.**

Of a declared type with a sheet (`RecordType.Exports`), a column is read by the name of its
accessor, or else by that of its field.

* `Reads t r name` — the outcomes of reading that a record has to answer for: a value, or what the
  type's own code under the name gives (`OwnOutcome`). A missing attribute or a wrong number of
  arguments is neither;
* `reads_of_resolveMember` — a name that the inspection of the type accepts reads every record;
* `refuses_iff_unusable` — so a name is refused just when it is unusable, and else it reads all
  records;
* `accepts_hidden` — of what only the type itself has neither is true: it is accepted, and reading
  any record by it fails.
-/

import SheetExport.Proofs.Record.Unusable
import SheetExport.Proofs.Record.Reading

namespace SheetExport

open RecordType

variable {t : RecordType} {b : Binding} {name header : String} {type : FieldType} {r : Record}
  {attributes : List (String × Value)}

namespace RecordType

/-- The name is that of a function or a property. -/
def IsFunction (t : RecordType) (name : String) : Prop :=
  match t.member? name, t.inherent? name with
  | some (.constant _), _ => False
  | some _, _ => True
  | none, some .display | none, some .comparison | none, some .constructor | none, some .ofType =>
    True
  | none, _ => False

/-- A declared type with a sheet whose members have names without points, and whose fields have
names that are not those of functions. -/
structure Exports (t : RecordType) : Prop where
  declared : t.Declared
  sheet : ∃ spec, t.source = .sheet spec
  plain : t.Plain
  named : ∀ name m, t.member? name = some m → '.' ∉ name.toList
  apart : ∀ b ∈ t.bindings, ¬ t.IsFunction b.name

end RecordType

/-! ### What accessors read -/

/-- A name without points is read as it stands. -/
theorem read_ofName (pointless : '.' ∉ name.toList) :
    (Accessor.ofName name).read r = r.valueOf name := by
  have single : name.splitOn "." = [name] := by
    have parts := Text.splitOn_eq_parts '.' name
    rw [Text.parts_of_notMem pointless, List.map_singleton, String.ofList_toList] at parts
    exact parts
  rw [Accessor.ofName, single]
  exact r.follow_single name

/-- What the code of a type gives on a record: that of a property or a method of a name, or the text
that records of types with fields have. -/
inductive OwnOutcome (t : RecordType) (r : Record) (name : String) : Except Fault Value → Prop
  | property {body : Body} {returns : Option FieldType}
    (member : t.member? name = some (.property body returns)) :
    OwnOutcome t r name (body.run (r.readerWithin (Record.innerDepth t) (.record r)))
  | method {parameters : List Parameter} {body : Body} {returns : Option FieldType}
    (member : t.member? name = some (.method parameters body returns)) :
    OwnOutcome t r name (body.run r.valueOf)
  | display (inherent : t.inherent? name = some .display) :
    OwnOutcome t r name (r.usualText.map .text)

/-- The outcome is a value, or what the type's own code gives. -/
def Reads (t : RecordType) (r : Record) (name : String) (outcome : Except Fault Value) : Prop :=
  (∃ v, outcome = .ok v) ∨ OwnOutcome t r name outcome

section Instances

variable (exports : t.Exports) (fields : attributes.map Prod.fst = t.bindings.map Binding.name)

include fields in
theorem lookup_isSome_iff_field :
    (attributes.lookup name).isSome = true ↔ ∃ b ∈ t.bindings, b.name = name := by
  have isName : (∃ b ∈ t.bindings, b.name = name) ↔ ∃ entry ∈ attributes, entry.1 = name := by
    rw [← List.mem_map, ← fields, List.mem_map]
  rw [isName, List.lookup_isSome_iff]
  simp only [beq_iff_eq, @eq_comm _ name]

include fields in
theorem lookup_eq_none_of_noField (noField : ∀ b ∈ t.bindings, b.name ≠ name) :
    attributes.lookup name = none := by
  refine Option.not_isSome_iff_eq_none.mp fun isSome => ?_
  obtain ⟨b, isField, named⟩ := (lookup_isSome_iff_field fields).mp isSome
  exact noField b isField named

include exports fields

theorem lookup_eq_none_of_isFunction (isFunction : t.IsFunction name) :
    attributes.lookup name = none :=
  lookup_eq_none_of_noField fields fun b isField named =>
    exports.apart b isField (named ▸ isFunction)

/-- A field can be read. -/
theorem exists_valueOf_field (isField : b ∈ t.bindings) :
    ∃ v, (Record.object t attributes).valueOf b.name = .ok v := by
  obtain ⟨v, own⟩ := Option.isSome_iff_exists.mp
    ((lookup_isSome_iff_field fields).mpr ⟨b, isField, rfl⟩)
  refine ⟨v, Record.valueOf_attribute exports.plain (fun m member => ?_) own⟩
  cases m with
  | property body returns =>
    exact absurd (by rw [IsFunction, member]; trivial) (exports.apart b isField)
  | writeOnly => exact absurd (by rw [IsFunction, member]; trivial) (exports.apart b isField)
  | _ => rfl

/-- **An accepted name can be read off the records.** -/
theorem reads_of_resolveMember {a : Accessor} {found : FieldType} (visible : t.Visible name)
    (resolved : resolveMember t name type = .ok (a, found)) :
    Reads t (.object t attributes) name (a.read (.object t attributes)) := by
  cases member : t.member? name with
  | none =>
    rw [resolveMember_of_noMember member] at resolved
    cases inherent : t.inherent? name with
    | none =>
      rw [resolveInherent, inherent] at resolved
      dsimp only at resolved
      split at resolved
      · rename_i isAny
        cases resolved
        obtain ⟨b, isField, same⟩ := List.any_eq_true.mp isAny
        obtain rfl := of_decide_eq_true same
        rw [read_ofName (exports.declared.notMem_of_field isField)]
        exact Or.inl (exists_valueOf_field exports fields isField)
      · cases resolved
    | some i =>
      rw [resolveInherent, inherent] at resolved
      cases i with
      | display =>
        cases resolved
        obtain ⟨rfl, structured⟩ := eq_of_inherent?_display inherent
        have noAttribute := lookup_eq_none_of_isFunction exports fields
          (by rw [IsFunction, member, inherent]; trivial)
        right
        rw [show (Accessor.call "__repr__").read (.object t attributes) = _ from
          Record.call_display exports.plain member structured noAttribute]
        exact .display inherent
      | value v =>
        cases resolved
        rw [read_ofName (notMem_of_inherent? inherent)]
        exact Or.inl (Record.exists_valueOf_inherent exports.plain member inherent)
      | hidden =>
        cases resolved
        obtain ⟨b, isField, rfl⟩ := visible member inherent
        rw [read_ofName (exports.declared.notMem_of_field isField)]
        exact Or.inl (exists_valueOf_field exports fields isField)
      | _ => cases resolved
  | some m =>
    cases m with
    | method parameters body returns =>
      rw [resolveMember, member] at resolved
      dsimp only at resolved
      split at resolved
      · rename_i optional
        obtain ⟨type', -, accepted⟩ := except_bind_eq_ok_iff.mp resolved
        split at accepted
        · cases accepted
        · cases accepted
          have noAttribute := lookup_eq_none_of_isFunction exports fields
            (by rw [IsFunction, member]; trivial)
          right
          rw [show (Accessor.call name).read (.object t attributes) = _ from
            Record.call_method exports.plain member noAttribute optional]
          exact .method member
      · cases resolved
    | property body returns =>
      rw [resolveMember, member] at resolved
      obtain ⟨type', -, accepted⟩ := except_bind_eq_ok_iff.mp resolved
      split at accepted
      · cases accepted
      · cases accepted
        right
        rw [read_ofName (exports.named name _ member), Record.valueOf_property exports.plain member]
        exact .property member
    | constant v =>
      rw [resolveMember, member] at resolved
      cases resolved
      rw [read_ofName (exports.named name _ member)]
      exact Or.inl (Record.exists_valueOf_constant exports.plain member)
    | _ =>
      rw [resolveMember, member] at resolved
      cases resolved

end Instances

/-! ### Accessors -/

/-- The name that the column of a field is read by: its accessor's, or else the field's own. -/
def Binding.ReadsBy (b : Binding) (name : String) : Prop :=
  match b.column.bind ColumnSpec.accessor with
  | none => name = b.name
  | some (.member other) => name = other
  | some _ => False

/-- A field can be used under its own name. -/
theorem not_unusable_of_field (exports : t.Exports) (isField : b ∈ t.bindings) :
    ¬ t.Unusable b.name := fun unusable => by
  refine exports.apart b isField ?_
  cases unusable with
  | absent _ _ noField => exact absurd rfl (noField b isField)
  | inherentOfType noMember inherent => rw [IsFunction, noMember, inherent]; trivial
  | comparison noMember inherent => rw [IsFunction, noMember, inherent]; trivial
  | constructor noMember inherent _ => rw [IsFunction, noMember, inherent]; trivial
  | noGetter member => rw [IsFunction, member]; trivial
  | ofType member => rw [IsFunction, member]; trivial
  | emptyProperty member _ => rw [IsFunction, member]; trivial
  | emptyMethod member _ => rw [IsFunction, member]; trivial
  | needsArguments member _ => rw [IsFunction, member]; trivial

/-- **Accessors that cannot be used are refused, and all others read the records.** Reading gives a
value, or what the type's own code under the name gives on the record. -/
theorem refuses_iff_unusable (exports : t.Exports)
    (isField : ∃ field ∈ t.bindings, field.name = b.name)
    (readsBy : b.ReadsBy name) (visible : t.Visible name) :
    (Refuses t b header ↔ t.Unusable name) ∧
      ∀ a found, resolveAccessor t b header = .ok (a, found) →
        ∀ given r, t.record? given = .ok r → Reads t r name (a.read r) := by
  obtain ⟨spec, sheet⟩ := exports.sheet
  obtain ⟨field, isField, same⟩ := isField
  have instances {given : List (String × Value)} {r : Record} (made : t.record? given = .ok r) :=
    Record.of_record? exports.declared (exports.declared.isStructured sheet) exports.plain made
  unfold Binding.ReadsBy at readsBy
  split at readsBy
  · rename_i accessor
    rw [readsBy, ← same]
    constructor
    · refine iff_of_false ?_ (not_unusable_of_field exports isField)
      rintro ⟨_, failed, -⟩
      rw [resolveAccessor, accessor] at failed
      cases failed
    · intro a found resolved given r made
      obtain ⟨attributes, rfl, fields⟩ := instances made
      rw [resolveAccessor, accessor] at resolved
      cases resolved
      rw [← same, read_ofName (exports.declared.notMem_of_field isField)]
      exact Or.inl (exists_valueOf_field exports fields isField)
  · rename_i other accessor
    subst readsBy
    rw [refuses_member_iff accessor]
    constructor
    · exact ⟨unusable_of_refusesMember, fun unusable => refusesMember_of_unusable unusable visible⟩
    · intro a found resolved given r made
      obtain ⟨attributes, rfl, fields⟩ := instances made
      rw [resolveAccessor_member accessor] at resolved
      exact reads_of_resolveMember exports fields visible (mapError_eq_ok_iff.mp resolved)
  · exact readsBy.elim

/-- **What only the type itself has is accepted, and no record can be read by it.** -/
theorem accepts_hidden (exports : t.Exports)
    (accessor : b.column.bind ColumnSpec.accessor = some (.member name))
    (noMember : t.member? name = none) (hidden : t.inherent? name = some .hidden)
    (noField : ∀ field ∈ t.bindings, field.name ≠ name) :
    t.Unusable name ∧ resolveAccessor t b header = .ok (.ofName name, b.type) ∧
      ∀ given r, t.record? given = .ok r →
        (Accessor.ofName name).read r = .error (.noAttribute t.name name) := by
  obtain ⟨spec, sheet⟩ := exports.sheet
  refine ⟨.absent noMember (Or.inr hidden) noField, ?_, fun given r made => ?_⟩
  · rw [resolveAccessor_member accessor, resolveMember_of_noMember noMember, resolveInherent,
      hidden]
    rfl
  · obtain ⟨attributes, rfl, fields⟩ := Record.of_record? exports.declared
      (exports.declared.isStructured sheet) exports.plain made
    rw [read_ofName (notMem_of_inherent? hidden)]
    exact Record.valueOf_hidden exports.plain noMember (lookup_eq_none_of_noField fields noField)
      hidden

/-! ### A type with a property and a method -/

/-- A field whose column is read by a name. -/
def fieldReadBy (name : String) : Binding where
  name := "n"
  column := some { header := "N", order := 1, accessor := some (.member name) }

/-- A type with the field, a property that doubles it, and a method that needs an argument. -/
def declarationReadBy (name : String) : Declaration where
  key := ⟨"Orders", 0⟩
  base? := none
  classes := FieldType.standardClasses
  isStructured := true
  fields := [fieldReadBy name]
  members := [("double", .property (.times "n" 2) none),
    ("scaled", .method [⟨"factor", .positional, false⟩] (.field "n") none)]

/-- The type with a sheet. -/
def typeReadBy (name : String) : RecordType :=
  (declarationReadBy name).type.withSource (.sheet { name := "Orders" })

theorem members_typeReadBy (name : String) : (typeReadBy name).members =
    [("scaled", .method [⟨"factor", .positional, false⟩] (.field "n") none),
      ("double", .property (.times "n" 2) none)] := by
  have consumed : Declaration.consumedNames = ["__qualname__", "__classcell__"] := by
    rw [Declaration.consumedNames, words_eq]
    decide +kernel
  have replaced : Declaration.replacedNames = ["__dataclass_params__", "__dataclass_fields__"] := by
    rw [Declaration.replacedNames, words_eq]
    decide +kernel
  simp [typeReadBy, declarationReadBy, fieldReadBy, withSource, Declaration.type,
    Declaration.ownMembers, Declaration.inheritedMembers, Declaration.base,
    Declaration.fieldMember?, consumed, replaced, RecordType.ofName, schemaMember]

theorem bindings_typeReadBy (name : String) : (typeReadBy name).bindings = [fieldReadBy name] := by
  simp [typeReadBy, declarationReadBy, fieldReadBy, withSource, Declaration.type,
    Declaration.bindings, Declaration.base, Declaration.settleBinding, Declaration.member?,
    Declaration.overrideBinding, RecordType.ofName, List.lookup_cons]

theorem declare_declarationReadBy (name : String) :
    (declarationReadBy name).declare = .ok (declarationReadBy name).type := by
  have noFault : (declarationReadBy name).fault? = none := by
    simp [Declaration.fault?, Declaration.member?, declarationReadBy, List.lookup_cons]
  have noBase : (declarationReadBy name).type.base? = none := rfl
  have fields : (declarationReadBy name).bindings = (typeReadBy name).bindings := rfl
  have named : Declaration.fieldNameFault? "n" = none := by
    unfold Declaration.fieldNameFault?
    dsimp only
    rw [if_neg (by decide +kernel), if_pos (by decide +kernel)]
  have noFieldFault : (declarationReadBy name).fieldFault? = none := by
    unfold Declaration.fieldFault?
    rw [fields, bindings_typeReadBy]
    simp [named, Declaration.member?, declarationReadBy, fieldReadBy, List.lookup_cons]
  unfold Declaration.declare
  rw [noFault]
  dsimp only
  rw [RecordType.follows, noBase, noFieldFault]
  rfl

/-- A field is no function if no member and nothing that fields bring has its name. -/
theorem not_isFunction_of_noMember (noMember : t.member? name = none)
    (noStructured : structuredInherent? name = none) (other : name ≠ schemaMember) :
    ¬ t.IsFunction name := by
  intro isFunction
  unfold IsFunction at isFunction
  rw [noMember] at isFunction
  cases inherent : t.inherent? name with
  | none =>
    rw [inherent] at isFunction
    exact isFunction
  | some i =>
    rw [inherent] at isFunction
    obtain ⟨-, own⟩ | plain | ⟨isSchema, -⟩ := inherent?_cases inherent
    · rw [noStructured] at own
      cases own
    · obtain ⟨v, rfl⟩ | rfl := exists_value_of_plain plain
      · exact isFunction
      · exact isFunction
    · exact other isSchema

theorem exports_typeReadBy (name : String) : (typeReadBy name).Exports where
  declared := by
    refine .onSheet (.type (fun base isBase => ?_) (declare_declarationReadBy name)) rfl
    cases isBase
  sheet := ⟨_, rfl⟩
  plain := by
    constructor <;> simp [RecordType.member?, members_typeReadBy, settingMember, List.lookup_cons]
  named := by
    intro member m found
    have isMember := mem_of_lookup found
    rw [members_typeReadBy] at isMember
    have free : ∀ name ∈ ["scaled", "double"], '.' ∉ name.toList := by decide +kernel
    refine free member ?_
    simp only [List.mem_cons, Prod.mk.injEq, List.not_mem_nil, or_false] at isMember
    exact List.mem_pair.mpr (isMember.imp And.left And.left)
  apart := by
    intro b isField
    rw [bindings_typeReadBy, List.mem_singleton] at isField
    rw [isField]
    refine not_isFunction_of_noMember ?_ rfl ?_
    · simp [RecordType.member?, members_typeReadBy, List.lookup_cons, fieldReadBy]
    · simp [fieldReadBy, schemaMember]

theorem record?_typeReadBy (name : String) :
    (typeReadBy name).record? [("n", .int 7)] =
      .ok (.object (typeReadBy name) [("n", .int 7)]) := by
  have plain := (exports_typeReadBy name).plain
  have constructor : (typeReadBy name).constructor? = some ⟨"Orders", false⟩ := by
    simp [typeReadBy, declarationReadBy, withSource, Declaration.type, Declaration.constructor?,
      Declaration.member?, settingMember, followingMember, List.lookup_cons, Declaration.base,
      RecordType.ofName, RecordType.member?, Declaration.title]
  have filled : (typeReadBy name).fillFields "Orders" [("n", .int 7)] = .ok [("n", .int 7)] := by
    simp [fillFields, bindings_typeReadBy, fieldReadBy, List.find?, List.lookup_cons]
  have notSetting : (typeReadBy name).member? "n" = none := by
    simp [RecordType.member?, members_typeReadBy, List.lookup_cons]
  have set : (Record.object (typeReadBy name) []).setAll [("n", .int 7)] =
      .ok (.object (typeReadBy name) [("n", .int 7)]) := by
    simp [Record.setAll, Record.set, Record.ask?, Attribute.ask?, plain.setting, notSetting,
      show (typeReadBy name).slots? = none from rfl]
  rw [record?, plain.making, plain.initial, constructor]
  dsimp only
  rw [filled]
  exact congrArg (fun made => Except.bind made _) set

/-- A property is read, and a method that needs an argument is refused. -/
theorem refuses_iff_unusable_sample :
    Refuses (typeReadBy "scaled") (fieldReadBy "scaled") "N" ∧
    ¬ Refuses (typeReadBy "double") (fieldReadBy "double") "N" ∧
    ∃ a found r, resolveAccessor (typeReadBy "double") (fieldReadBy "double") "N" = .ok (a, found) ∧
      (typeReadBy "double").record? [("n", .int 7)] = .ok r ∧
      Reads (typeReadBy "double") r "double" (a.read r) := by
  have isField (name : String) : ∃ field ∈ (typeReadBy name).bindings,
      field.name = (fieldReadBy name).name :=
    ⟨fieldReadBy name, by rw [bindings_typeReadBy]; exact List.mem_singleton_self _, rfl⟩
  have scaled : (typeReadBy "scaled").member? "scaled" =
      some (.method [⟨"factor", .positional, false⟩] (.field "n") none) := by
    rw [member?, members_typeReadBy]
    rfl
  have double : (typeReadBy "double").member? "double" =
      some (.property (.times "n" 2) none) := by
    rw [member?, members_typeReadBy]
    rfl
  have resolved : resolveAccessor (typeReadBy "double") (fieldReadBy "double") "N" =
      .ok (.ofName "double", .any) := by
    rw [resolveAccessor_member rfl, resolveMember, double]
    rfl
  have sample (name : String) (m : Member) (member : (typeReadBy name).member? name = some m) :
      (Refuses (typeReadBy name) (fieldReadBy name) "N" ↔ (typeReadBy name).Unusable name) ∧ _ :=
    refuses_iff_unusable (exports_typeReadBy name) (isField name) rfl
      fun noMember => absurd (member.symm.trans noMember) (Option.some_ne_none m)
  refine ⟨(sample "scaled" _ scaled).1.mpr
      (.needsArguments scaled ⟨_, List.mem_singleton_self _, rfl⟩),
    ?_, _, _, _, resolved, record?_typeReadBy "double",
    (sample "double" _ double).2 _ _ resolved _ _ (record?_typeReadBy "double")⟩
  rintro ⟨_, failed, -⟩
  rw [resolved] at failed
  cases failed

/-- The name `mro` is accepted, though only types have something under it. -/
theorem exists_accepted_unusable :
    (typeReadBy "mro").Exports ∧ (fieldReadBy "mro").ReadsBy "mro" ∧
    (typeReadBy "mro").Unusable "mro" ∧ ¬ Refuses (typeReadBy "mro") (fieldReadBy "mro") "N" ∧
    ∃ a found r, resolveAccessor (typeReadBy "mro") (fieldReadBy "mro") "N" = .ok (a, found) ∧
      (typeReadBy "mro").record? [("n", .int 7)] = .ok r ∧
      a.read r = .error (.noAttribute "Orders" "mro") := by
  have exports := exports_typeReadBy "mro"
  have noMember : (typeReadBy "mro").member? "mro" = none := by
    rw [member?, members_typeReadBy]
    rfl
  have hidden : (typeReadBy "mro").inherent? "mro" = some .hidden := by
    have notFunction : inherentFunctions.contains "mro" = false := by
      rw [inherentFunctions, words_eq]
      simp only [String.toList_append]
      decide +kernel
    have isHidden : hiddenNames.contains "mro" = true := by
      rw [hiddenNames, words_eq]
      simp only [String.toList_append]
      decide +kernel
    have plain : inherent?.plain (typeReadBy "mro") "mro" = some .hidden := by
      rw [inherent?.plain, notFunction, isHidden]
      rfl
    rw [inherent?, ← plain]
    rfl
  have noField : ∀ field ∈ (typeReadBy "mro").bindings, field.name ≠ "mro" := by
    intro field isField
    rw [bindings_typeReadBy, List.mem_singleton] at isField
    rw [isField]
    simp [fieldReadBy]
  obtain ⟨unusable, resolved, reads⟩ : _ ∧
      resolveAccessor (typeReadBy "mro") (fieldReadBy "mro") "N" = _ ∧ _ :=
    accepts_hidden exports rfl noMember hidden noField
  refine ⟨exports, rfl, unusable, ?_, _, _, _, resolved, record?_typeReadBy "mro",
    reads _ _ (record?_typeReadBy "mro")⟩
  rintro ⟨_, failed, -⟩
  rw [resolved] at failed
  cases failed

end SheetExport
