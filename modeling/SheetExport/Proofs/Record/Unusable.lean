/-
**Names that no column can be read by.**

A record has its fields, what the type declares for its records, and what every type has for them.
`RecordType.Unusable t name` says what else a name can stand for: nothing, a property that is only
set, code of the type itself, code that gives nothing, or code that needs more than the record.

* `refusesMember_property_iff`, `refusesMember_method_iff` — when the inspection of a type refuses a
  property or a method;
* `unusable_of_refusesMember` — what it refuses is not usable;
* `refusesMember_of_unusable` — what is not usable it refuses, unless the type itself has something
  under the name that its records do not have (`RecordType.Visible`).

An annotation that cannot be read is not a refusal in this sense; it fails in its own way
(`exists_of_returnType_eq_error`).
-/

import SheetExport.Accessor
import SheetExport.Failure
import SheetExport.Proofs.Outcome

namespace SheetExport

variable {t : RecordType} {b : Binding} {name header : String} {type : FieldType}

namespace RecordType

/-- The annotation is that of a type without values, maybe in a text. -/
def ReturnsNothing (t : RecordType) (returns : Option FieldType) : Prop :=
  ∃ declared ∈ returns, ∃ resolved,
    (declared.resolve ⟨t.classes, [], true⟩).result = .ok resolved ∧
      resolved.withoutNotes.isNone = true

/-- What is wrong with the annotation, if anything, is expected: a name is unknown, or something is
no type. -/
def Readable (t : RecordType) (declared : FieldType) : Prop :=
  ∀ defect, (declared.resolve ⟨t.classes, [], true⟩).result = .error defect →
    defect.kind.isExpected = true

/-- What a name stands for that no record can be read by. -/
inductive Unusable (t : RecordType) (name : String) : Prop
  /-- There is neither a member nor a field of the name; at most the type itself has it. -/
  | absent (noMember : t.member? name = none)
    (noInherent : t.inherent? name = none ∨ t.inherent? name = some .hidden)
    (noField : ∀ b ∈ t.bindings, b.name ≠ name)
  | noGetter (member : t.member? name = some .writeOnly)
  | ofType {takesType : Bool} {parameters : List Parameter} {body : Body}
    (member : t.member? name = some (.typeMethod takesType parameters body))
  | emptyProperty {body : Body} {returns : Option FieldType}
    (member : t.member? name = some (.property body returns))
    (nothing : ReturnsNothing t returns)
  | emptyMethod {parameters : List Parameter} {body : Body} {returns : Option FieldType}
    (member : t.member? name = some (.method parameters body returns))
    (nothing : ReturnsNothing t returns)
  | needsArguments {parameters : List Parameter} {body : Body} {returns : Option FieldType}
    (member : t.member? name = some (.method parameters body returns))
    (required : ∃ p ∈ parameters, p.isRequired = true)
  /-- The function that gives the schema belongs to the type. -/
  | inherentOfType (noMember : t.member? name = none) (inherent : t.inherent? name = some .ofType)
  /-- The function that compares a record needs another one. -/
  | comparison (noMember : t.member? name = none) (inherent : t.inherent? name = some .comparison)
  /-- The function that sets the fields needs those without a default, and gives nothing. -/
  | constructor (noMember : t.member? name = none) (inherent : t.inherent? name = some .constructor)
    (readable : (∃ b ∈ t.bindings, b.default = none) ∨ ∀ b ∈ t.bindings, t.Readable b.type)

/-- Records can have what the type has under the name: it is not what only the type itself has. -/
def Visible (t : RecordType) (name : String) : Prop :=
  t.member? name = none → t.inherent? name = some .hidden → ∃ b ∈ t.bindings, b.name = name

end RecordType

open RecordType

/-! ### Refused names -/

/-- The name is refused as one that cannot be used. -/
def RefusesMember (t : RecordType) (name : String) (type : FieldType) : Prop :=
  ∃ reason, resolveMember t name type = .error reason ∧ ∀ defect, reason ≠ .unreadableType defect

/-- A type without values that is named as such is resolved to itself. -/
theorem exists_resolve_of_isNone {declared : FieldType} (isNone : declared.isNone = true)
    (scope : Annotation.Scope) : ∃ resolved, (declared.resolve scope).result = .ok resolved := by
  cases declared with
  | named => exact ⟨_, rfl⟩
  | _ => cases isNone

section Annotations

variable {unknown : FieldType → FieldType} {declared resolved : FieldType}
  {returns : Option FieldType} {defect : Annotation.Defect}

theorem returnType_of_resolved
    (found : (declared.resolve ⟨t.classes, [], true⟩).result = .ok resolved) :
    returnType t.classes unknown (some declared) = .ok resolved.withoutNotes := by
  simp only [returnType, found]

theorem returnType_of_expected
    (found : (declared.resolve ⟨t.classes, [], true⟩).result = .error defect)
    (expected : defect.kind.isExpected = true) :
    returnType t.classes unknown (some declared) = .ok (unknown declared) := by
  simp only [returnType, found, expected, if_true]

theorem returnType_of_unexpected
    (found : (declared.resolve ⟨t.classes, [], true⟩).result = .error defect)
    (unexpected : defect.kind.isExpected = false) :
    returnType t.classes unknown (some declared) = .error (.unreadableType defect) := by
  simp only [returnType, found, unexpected, Bool.false_eq_true, if_false]

/-- Reading the annotation of a function fails only if it cannot be read. -/
theorem exists_of_returnType_eq_error {reason : AccessorReason}
    (failed : returnType t.classes unknown returns = .error reason) :
    ∃ defect, reason = .unreadableType defect := by
  cases returns with
  | none => cases failed
  | some declared =>
    cases found : (declared.resolve ⟨t.classes, [], true⟩).result with
    | ok resolved =>
      rw [returnType_of_resolved found] at failed
      cases failed
    | error defect =>
      cases expected : defect.kind.isExpected with
      | true =>
        rw [returnType_of_expected found expected] at failed
        cases failed
      | false =>
        rw [returnType_of_unexpected found expected] at failed
        cases failed
        exact ⟨defect, rfl⟩

/-- The annotation of a function can be read just when nothing unexpected is wrong with it. -/
theorem exists_returnType_iff :
    (∃ type, returnType t.classes unknown (some declared) = .ok type) ↔
      t.Readable declared := by
  unfold Readable
  cases found : (declared.resolve ⟨t.classes, [], true⟩).result with
  | ok resolved => exact iff_of_true ⟨_, returnType_of_resolved found⟩ nofun
  | error defect =>
    cases expected : defect.kind.isExpected with
    | true =>
      refine iff_of_true ⟨_, returnType_of_expected found expected⟩ fun _ same => ?_
      cases same
      exact expected
    | false =>
      refine iff_of_false ?_ fun readable => ?_
      · rintro ⟨type, read⟩
        rw [returnType_of_unexpected found expected] at read
        cases read
      · rw [readable defect rfl] at expected
        cases expected

/-- A function gives nothing just when what is read is a type without values, as nothing that stands
for an annotation with an expected defect is one. -/
theorem returnsNothing_iff
    (keeps : ∀ type, (unknown type).isNone = true → type.isNone = true) :
    t.ReturnsNothing returns ↔
      ∃ type, returnType t.classes unknown returns = .ok type ∧ type.isNone = true := by
  constructor
  · rintro ⟨declared, isDeclared, resolved, found, isNone⟩
    rw [Option.mem_def.mp isDeclared]
    exact ⟨_, returnType_of_resolved found, isNone⟩
  · rintro ⟨type, read, isNone⟩
    cases returns with
    | none =>
      cases read
      cases isNone
    | some declared =>
      refine ⟨declared, rfl, ?_⟩
      cases found : (declared.resolve ⟨t.classes, [], true⟩).result with
      | ok resolved =>
        rw [returnType_of_resolved found] at read
        cases read
        exact ⟨resolved, rfl, isNone⟩
      | error defect =>
        cases expected : defect.kind.isExpected with
        | true =>
          rw [returnType_of_expected found expected] at read
          cases read
          obtain ⟨resolved, isResolved⟩ := exists_resolve_of_isNone (keeps _ isNone) _
          rw [found] at isResolved
          cases isResolved
        | false =>
          rw [returnType_of_unexpected found expected] at read
          cases read

end Annotations

/-- A member whose annotation is asked for is refused just when it gives nothing. -/
theorem refuses_annotated_iff {unknown : FieldType → FieldType} {returns : Option FieldType}
    {why : AccessorReason} {accept : FieldType → Accessor × FieldType}
    (keeps : ∀ type, (unknown type).isNone = true → type.isNone = true)
    (known : ∀ defect, why ≠ .unreadableType defect) :
    (∃ reason, ((returnType t.classes unknown returns).bind fun type =>
        if type.isNone then .error why else .ok (accept type)) = .error reason ∧
      ∀ defect, reason ≠ .unreadableType defect) ↔ t.ReturnsNothing returns := by
  rw [returnsNothing_iff keeps]
  cases annotated : returnType t.classes unknown returns with
  | error cause =>
    obtain ⟨defect, rfl⟩ := exists_of_returnType_eq_error annotated
    constructor
    · rintro ⟨reason, failed, readable⟩
      cases failed
      exact absurd rfl (readable defect)
    · rintro ⟨type, absent, -⟩
      cases absent
  | ok type =>
    constructor
    · rintro ⟨reason, failed, -⟩
      refine ⟨type, rfl, ?_⟩
      cases nothing : type.isNone with
      | true => rfl
      | false =>
        change (if type.isNone then Except.error why else .ok (accept type)) = _ at failed
        rw [nothing] at failed
        cases failed
    · rintro ⟨type', same, nothing⟩
      cases same
      exact ⟨why, if_pos nothing, known⟩

theorem refusesMember_property_iff {body : Body} {returns : Option FieldType}
    (member : t.member? name = some (.property body returns)) :
    RefusesMember t name type ↔ t.ReturnsNothing returns := by
  unfold RefusesMember resolveMember
  rw [member]
  exact refuses_annotated_iff nofun nofun

theorem refusesMember_method_iff {parameters : List Parameter} {body : Body}
    {returns : Option FieldType}
    (member : t.member? name = some (.method parameters body returns)) :
    RefusesMember t name type ↔
      (∃ p ∈ parameters, p.isRequired = true) ∨ t.ReturnsNothing returns := by
  unfold RefusesMember resolveMember
  rw [member]
  dsimp only
  cases required : parameters.filter Parameter.isRequired with
  | nil =>
    have none : ¬ ∃ p ∈ parameters, p.isRequired = true := by
      rintro ⟨p, isParameter, isRequired⟩
      exact List.filter_eq_nil_iff.mp required p isParameter isRequired
    rw [or_iff_right none]
    exact refuses_annotated_iff (fun _ isNone => isNone) nofun
  | cons p rest =>
    obtain ⟨isParameter, isRequired⟩ := List.mem_filter.mp (required ▸ List.mem_cons_self)
    exact ⟨fun _ => Or.inl ⟨p, isParameter, isRequired⟩, fun _ => ⟨_, rfl, nofun⟩⟩

/-- The constructor is refused for what it needs or gives, unless it needs nothing and the type of
some field cannot be read. -/
theorem constructorReason_iff :
    (∀ defect, constructorReason t ≠ .unreadableType defect) ↔
      (∃ b ∈ t.bindings, b.default = none) ∨ ∀ b ∈ t.bindings, t.Readable b.type := by
  unfold constructorReason
  cases required : t.bindings.filter (·.default.isNone) with
  | cons b rest =>
    obtain ⟨isField, noDefault⟩ := List.mem_filter.mp (required ▸ List.mem_cons_self)
    exact iff_of_true nofun (Or.inl ⟨b, isField, Option.isNone_iff_eq_none.mp noDefault⟩)
  | nil =>
    have none : ¬ ∃ b ∈ t.bindings, b.default = none := by
      rintro ⟨b, isField, noDefault⟩
      exact List.filter_eq_nil_iff.mp required b isField (by rw [noDefault]; rfl)
    rw [or_iff_right none]
    cases types : t.bindings.mapM fun b => returnType t.classes id (some b.type) with
    | ok found =>
      refine iff_of_true nofun fun b isField => ?_
      obtain ⟨type, -, read⟩ := exists_of_mem_left (forall₂_of_mapM_eq_ok types) isField
      exact exists_returnType_iff.mp ⟨type, read⟩
    | error reason =>
      refine iff_of_false (fun known => ?_) fun readable => ?_
      · obtain ⟨b, -, failed⟩ := exists_of_mapM_eq_error types
        obtain ⟨defect, rfl⟩ := exists_of_returnType_eq_error failed
        exact known defect rfl
      · obtain ⟨found, read, -⟩ := exists_mapM_eq_ok (P := fun _ _ => True) fun b isField =>
          (exists_returnType_iff.mpr (readable b isField)).imp fun type read => ⟨read, trivial⟩
        rw [read] at types
        cases types

/-- A name that no member declares is refused by what every type has under it. -/
theorem resolveMember_of_noMember (noMember : t.member? name = none) :
    resolveMember t name type = resolveInherent t name type := by
  rw [resolveMember, noMember]

/-- **What cannot be used is refused**, apart from what only the type itself has. -/
theorem refusesMember_of_unusable (unusable : t.Unusable name)
    (visible : t.Visible name) : RefusesMember t name type := by
  cases unusable with
  | absent noMember noInherent noField =>
    obtain nothing | hidden := noInherent
    · have notAny : ¬ t.bindings.any (·.name = name) = true := by
        simpa [List.any_eq_true] using noField
      refine ⟨.noMember, ?_, nofun⟩
      rw [resolveMember_of_noMember noMember, resolveInherent, nothing]
      exact if_neg notAny
    · obtain ⟨b, isField, named⟩ := visible noMember hidden
      exact absurd named (noField b isField)
  | noGetter member => exact ⟨.noGetter, by rw [resolveMember, member], nofun⟩
  | ofType member => exact ⟨.notOfInstance, by rw [resolveMember, member], nofun⟩
  | emptyProperty member nothing => exact (refusesMember_property_iff member).mpr nothing
  | emptyMethod member nothing => exact (refusesMember_method_iff member).mpr (Or.inr nothing)
  | needsArguments member required =>
    exact (refusesMember_method_iff member).mpr (Or.inl required)
  | inherentOfType noMember inherent =>
    refine ⟨.notOfInstance, ?_, nofun⟩
    rw [resolveMember_of_noMember noMember, resolveInherent, inherent]
  | comparison noMember inherent =>
    refine ⟨.needsArguments ["other"], ?_, nofun⟩
    rw [resolveMember_of_noMember noMember, resolveInherent, inherent]
  | constructor noMember inherent readable =>
    refine ⟨constructorReason t, ?_, constructorReason_iff.mpr readable⟩
    rw [resolveMember_of_noMember noMember, resolveInherent, inherent]

/-- **What is refused cannot be used.** -/
theorem unusable_of_refusesMember (refuses : RefusesMember t name type) : t.Unusable name := by
  cases member : t.member? name with
  | none =>
    obtain ⟨reason, failed, readable⟩ := refuses
    rw [resolveMember_of_noMember member] at failed
    cases inherent : t.inherent? name with
    | none =>
      rw [resolveInherent, inherent] at failed
      dsimp only at failed
      split at failed
      · cases failed
      · rename_i notAny
        refine .absent member (Or.inl inherent) fun b isField named => notAny ?_
        exact List.any_eq_true.mpr ⟨b, isField, decide_eq_true named⟩
    | some i =>
      rw [resolveInherent, inherent] at failed
      cases i with
      | display => cases failed
      | comparison => exact .comparison member inherent
      | constructor =>
        cases failed
        exact .constructor member inherent (constructorReason_iff.mp readable)
      | ofType => exact .inherentOfType member inherent
      | value v => cases failed
      | hidden => cases failed
  | some m =>
    cases m with
    | method parameters body returns =>
      obtain required | nothing := (refusesMember_method_iff member).mp refuses
      · exact .needsArguments member required
      · exact .emptyMethod member nothing
    | typeMethod takesType parameters body => exact .ofType member
    | property body returns =>
      exact .emptyProperty member ((refusesMember_property_iff member).mp refuses)
    | writeOnly => exact .noGetter member
    | constant v =>
      obtain ⟨reason, failed, -⟩ := refuses
      rw [resolveMember, member] at failed
      cases failed

/-- The accessor of the field is refused as one that cannot be used. -/
def Refuses (t : RecordType) (b : Binding) (header : String) : Prop :=
  ∃ defect, resolveAccessor t b header = .error defect ∧ Failure.ofAccess defect = .access defect

theorem resolveAccessor_member
    (accessor : b.column.bind ColumnSpec.accessor = some (.member name)) :
    resolveAccessor t b header =
      (resolveMember t name b.type).mapError fun reason => ⟨t.title, name, header, reason⟩ := by
  rw [resolveAccessor, accessor]

theorem refuses_member_iff (accessor : b.column.bind ColumnSpec.accessor = some (.member name)) :
    Refuses t b header ↔ RefusesMember t name b.type := by
  unfold Refuses RefusesMember
  rw [resolveAccessor_member accessor]
  cases resolveMember t name b.type with
  | ok found =>
    constructor
    · rintro ⟨_, failed, -⟩
      cases failed
    · rintro ⟨_, failed, -⟩
      cases failed
  | error reason =>
    constructor
    · rintro ⟨_, failed, isAccess⟩
      cases failed
      refine ⟨reason, rfl, fun defect unreadable => ?_⟩
      rw [unreadable] at isAccess
      cases isAccess
    · rintro ⟨_, failed, readable⟩
      cases failed
      refine ⟨_, rfl, ?_⟩
      unfold Failure.ofAccess
      split
      · rename_i defect unreadable
        exact absurd unreadable (readable defect)
      · rfl

end SheetExport
