/-
**How columns read their records.**

An accessor is resolved once per column: by the field's own name, by the name of a member or of
another field, or by code that takes the record. `resolveAccessor` says which declarations are
unusable (`AccessorDefect`); one that it accepts can be applied to any record of the type.
-/

import SheetExport.Record

namespace SheetExport

/-- A resolved way to read a value off a record. -/
inductive Accessor
  /-- Names one after the other, each asked of what the one before it leads to. -/
  | path (names : List String)
  | call (name : String)
  | function (body : Body)
  | display
  | truth

/-- The path that a name writes, with points between its parts. -/
def Accessor.ofName (name : String) : Accessor := path (name.splitOn ".")

/-- The value that an accessor reads off a record. -/
def Accessor.read (a : Accessor) (r : Record) : Except Fault Value :=
  match a with
  | path names => r.follow names
  | call name => r.call name
  | function body => body.run r.valueOf
  | display => r.display.map .text
  | truth => r.isTruthy.map .bool

/-! ### Defects -/

/-- Why a function cannot be called with one argument. -/
inductive BindingFault
  | tooMany
  | missing (name : String)
deriving Repr, DecidableEq

/-- What makes an accessor unusable. -/
inductive AccessorReason
  | needsArguments (names : List String)
  | methodReturnsNothing
  | propertyReturnsNothing
  | noGetter
  | notOfInstance
  | noMember
  | notUnary (fault : BindingFault)
  /-- The annotation of the member cannot be read. -/
  | unreadableType (defect : Annotation.Defect)
deriving Repr, DecidableEq

/-- An unusable accessor: its type, its name if it has one, and the header of its column. -/
structure AccessorDefect where
  type : String
  name : String
  header : String
  reason : AccessorReason
deriving Repr, DecidableEq

/-- The wording of a fault. -/
def BindingFault.text : BindingFault → String
  | tooMany => "too many positional arguments"
  | missing name => "missing a required argument: " ++ Text.quoted name

/-- The wording of a defect. -/
def AccessorDefect.text (d : AccessorDefect) : String :=
  let column := "column " ++ Text.quoted d.header
  let member := d.type ++ "." ++ d.name
  match d.reason with
  | .needsArguments names =>
    member ++ " (" ++ column ++ ") must take no arguments, requires " ++ ", ".intercalate names
  | .methodReturnsNothing => member ++ " (" ++ column ++ ") is annotated to return None"
  | .propertyReturnsNothing => member ++ " is annotated to return None (" ++ column ++ ")"
  | .noGetter => member ++ " has no getter (" ++ column ++ ")"
  | .notOfInstance => member ++ " must be an instance method (" ++ column ++ ")"
  | .noMember => d.type ++ " has no member " ++ Text.quoted d.name ++ " (" ++ column ++ ")"
  | .notUnary fault =>
    "Accessor <accessor> for " ++ d.type ++ " " ++ column ++
      " must accept exactly one record argument: " ++ fault.text
  | .unreadableType defect => defect.message

/-! ### Resolution -/

/-- Whether a function with the given parameters can be called with one argument. -/
def checkUnary (parameters : List Parameter) : Except BindingFault Unit :=
  match parameters with
  | [] => .error .tooMany
  | first :: rest =>
    if first.kind = .positional ∨ first.kind = .variadic then
      match rest.find? Parameter.isRequired with
      | some p => .error (.missing p.name)
      | none => .ok ()
    else .error .tooMany

/-- The type that a function is annotated to return; all types if its annotation is missing. An
expected defect of the annotation leaves the type as it is, or as `unknown` says. -/
def returnType (classes : FieldType.Namespace) (unknown : FieldType → FieldType)
    (returns : Option FieldType) : Except AccessorReason FieldType :=
  match returns with
  | none => .ok .any
  | some t =>
    match (t.resolve ⟨classes, [], true⟩).result with
    | .ok resolved => .ok resolved.withoutNotes
    | .error defect =>
      if defect.kind.isExpected then .ok (unknown t) else .error (.unreadableType defect)

/-- Why the constructor of a type cannot be an accessor: it needs the fields without a default, or
gives nothing. -/
def constructorReason (t : RecordType) : AccessorReason :=
  match t.bindings.filter (·.default.isNone) with
  | [] =>
    let types := t.bindings.mapM fun b => returnType t.classes id (some b.type)
    match types with
    | .error reason => reason
    | .ok _ => .methodReturnsNothing
  | required => .needsArguments (required.map Binding.name)

/-- Resolves the accessor that names what no member declares. -/
def resolveInherent (t : RecordType) (name : String) (type : FieldType) :
    Except AccessorReason (Accessor × FieldType) :=
  match t.inherent? name with
  | some .display => .ok (.call name, .any)
  | some .comparison => .error (.needsArguments ["other"])
  | some .constructor => .error (constructorReason t)
  | some .ofType => .error .notOfInstance
  | some (.value _) | some .hidden => .ok (.ofName name, type)
  | none => if t.bindings.any (·.name = name) then .ok (.ofName name, type) else .error .noMember

/-- Resolves the accessor that names a member. -/
def resolveMember (t : RecordType) (name : String) (type : FieldType) :
    Except AccessorReason (Accessor × FieldType) :=
  match t.member? name with
  | none => resolveInherent t name type
  | some .writeOnly => .error .noGetter
  | some (.property _ returns) =>
    (returnType t.classes (fun _ => .any) returns).bind fun annotation =>
      if annotation.isNone then .error .propertyReturnsNothing
      else .ok (.ofName name, annotation)
  | some (.typeMethod ..) => .error .notOfInstance
  | some (.method parameters _ returns) =>
    match parameters.filter Parameter.isRequired with
    | [] =>
      (returnType t.classes id returns).bind fun annotation =>
        if annotation.isNone then .error .methodReturnsNothing else .ok (.call name, annotation)
    | required => .error (.needsArguments (required.map Parameter.name))
  | some (.constant _) => .ok (.ofName name, type)

/-- The accessor of a column, and the type to classify the column by. -/
def resolveAccessor (t : RecordType) (b : Binding) (header : String) :
    Except AccessorDefect (Accessor × FieldType) :=
  match b.column.bind ColumnSpec.accessor with
  | none => .ok (.ofName b.name, b.type)
  | some .display => .ok (.display, b.type)
  | some .truth => .ok (.truth, b.type)
  | some (.function parameters body) =>
    match checkUnary parameters with
    | .error fault => .error ⟨t.title, "", header, .notUnary fault⟩
    | .ok () => .ok (.function body, b.type)
  | some (.member name) =>
    (resolveMember t name b.type).mapError fun reason => ⟨t.title, name, header, reason⟩

end SheetExport
