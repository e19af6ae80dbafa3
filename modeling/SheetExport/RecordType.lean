/-
**Record types.**

A record type has fields, members inherited or its own, and a declaration of its schema. A field
has a default if one is declared, or if the type has something else under the field's name already.
`RecordType.inherent?` says what every type has without declaring it.
-/

import SheetExport.Member

namespace SheetExport

/-! ### Types -/

/-- The declared type of a field, with what its class has under names of its own. -/
structure FieldAnnotation where
  own : List (String × Annotation.Meaning)
  name : String
  type : FieldType

/-- How a record type declares its schema. -/
inductive SchemaSource
  | undeclared
  /-- A sheet, with the type's own fields. -/
  | sheet (spec : SheetSpec)
  | schema (schema : Schema)
  /-- A member that is asked for the schema, and has none to give. -/
  | asked (m : Member)

/-- What sets the fields of a record: the name of the type that it belongs to, and whether it calls
a member of the record at the end. -/
structure Constructor where
  name : String
  isFollowed : Bool

/-- A record type. Its key identifies it. -/
structure RecordType where
  key : ClassKey
  /-- The name that messages give the type, and the text of its records. -/
  title : String
  /-- The type that it is derived from, if there is one. -/
  base? : Option RecordType
  /-- The classes that can be named where the type is declared. -/
  classes : FieldType.Namespace
  /-- Has fields that its records are made of. -/
  isStructured : Bool
  /-- What sets the fields, if there is something. -/
  constructor? : Option Constructor
  /-- The fields that records are made of, inherited ones first. -/
  bindings : List Binding
  /-- The declared types of all fields, overridden ones included, inherited ones first. -/
  annotations : List FieldAnnotation
  /-- The declared types of its own fields. -/
  ownTypes : List (String × FieldType)
  /-- Members and defaults of fields, nearest first. -/
  members : List (String × Member)
  /-- The only names that records have attributes under, if there are such. -/
  slots? : Option (List String)
  /-- The description of the type, if no member is one. -/
  description : Value
  source : SchemaSource

namespace RecordType

/-- The type of a bare value. -/
def ofName (name : String) : RecordType where
  key := ⟨name, 0⟩
  title := name
  base? := none
  classes := FieldType.standardClasses
  isStructured := false
  constructor? := none
  bindings := []
  annotations := []
  ownTypes := []
  members := []
  slots? := none
  description := .null
  source := .undeclared

/-- The name of a type. -/
def name (t : RecordType) : String := t.key.name

/-- The type among those of annotations. -/
def asClass (t : RecordType) : KnownClass := ⟨t.name, .other, "__main__", .ordinary, [], []⟩

/-- The text of a type. -/
def shown (t : RecordType) : String := classText ("__main__." ++ t.title)

/-- The member that is called when the fields of a record are set. -/
def followingMember : String := "__post_init__"

/-- The member that sets the attributes of a new record. -/
def settingMember : String := "__init__"

/-- The member that is asked for the schema of a type. -/
def schemaMember : String := "__sheet_schema__"

/-- The member of a name. -/
def member? (t : RecordType) (name : String) : Option Member := t.members.lookup name

/-- A type as a signature shows it: forms by their names alone, texts in quotes. -/
def annotationText (t : Annotation.Meaning) : String :=
  match t with
  | .reference text => Text.quoted text
  | .union false _ => ((t.textAs true).toOption.getD "").replace "typing." ""
  | _ => (t.textAs true).toOption.getD ""

/-- The parameters that fields are given by, with their types and defaults. -/
def fieldsText (classes : FieldType.Namespace) (bindings : List Binding) : String :=
  let parameter := fun (b : Binding) =>
    let ending := match b.default with
      | some v => " = " ++ v.literal.toOption.getD ""
      | none => ""
    b.name ++ ": " ++ annotationText (b.type.meaning classes) ++ ending
  let parameters := if bindings.isEmpty then [] else "*" :: bindings.map parameter
  "(" ++ ", ".intercalate parameters ++ ")"

/-- The parameters of a function. -/
def parametersText (parameters : List Parameter) : String :=
  let isNamed := fun p : Parameter => p.kind = .keywordOnly
  let shown := fun p : Parameter => match p.kind with
    | .variadic => "*" ++ p.name
    | .keywords => "**" ++ p.name
    | _ => if p.hasDefault then p.name ++ "=1" else p.name
  let places := parameters.filter fun p => p.kind = .positional
  let all := parameters.filter fun p => p.kind = .variadic
  let named := parameters.filter isNamed
  let bar := if all.isEmpty && !named.isEmpty then ["*"] else []
  let rest := parameters.filter fun p => p.kind = .keywords
  "(" ++ ", ".intercalate
    ((places ++ all).map shown ++ bar ++ (named ++ rest).map shown) ++ ")"

/-! ### What every type has -/

/-- What a type has without declaring it. -/
inductive Inherent
  /-- A function that gives the text of a record. -/
  | display
  /-- A function that compares a record to another one. -/
  | comparison
  | constructor
  /-- A function that belongs to the type and not to its records. -/
  | ofType
  | value (v : Value)
  /-- The type itself has it, its records do not. -/
  | hidden

/-- Names of functions that every record has. -/
def inherentFunctions : List String :=
  Annotation.words ("__delattr__ __dir__ __eq__ __format__ __ge__ __getattribute__ __getstate__ " ++
    "__gt__ __hash__ __init__ __init_subclass__ __le__ __lt__ __ne__ __new__ __reduce__ " ++
    "__reduce_ex__ __repr__ __setattr__ __sizeof__ __str__ __subclasshook__")

/-- Names that types have and records do not. -/
def hiddenNames : List String :=
  Annotation.words ("__abstractmethods__ __base__ __bases__ __basicsize__ __call__ " ++
    "__dictoffset__ __flags__ __instancecheck__ __itemsize__ __mro__ __name__ __or__ " ++
    "__prepare__ __qualname__ __ror__ __subclasscheck__ __subclasses__ __text_signature__ " ++
    "__weakrefoffset__ mro")

/-- A value of a type of which only the text is known. -/
def knownText (type shown : String) : Inherent := .value (.code type (.ok shown))

/-- What a type has under a name because its constructor sets its fields. -/
def structuredInherent? : String → Option Inherent
  | "__init__" => some .constructor
  | "__repr__" => some .display
  | "__eq__" => some .comparison
  | "__hash__" => some (.value .null)
  | "__match_args__" => some (knownText "tuple" "()")
  | "__dataclass_params__" => some (knownText "_DataclassParams" ("_DataclassParams(init=True," ++
      "repr=True,eq=True,order=False,unsafe_hash=False,frozen=False)"))
  | "__dataclass_fields__" => some (knownText "dict" "\x7b\x7d")
  | _ => none

/-- A type as it is declared. -/
def declaredMeaning (classes : FieldType.Namespace) (t : FieldType) : Annotation.Meaning :=
  match t with
  | .unresolved text => .text text
  | t => t.meaning classes

/-- The declared types of the fields of a type by their names. -/
def ownTypesMeaning (t : RecordType) : Annotation.Meaning :=
  let entries := t.ownTypes.foldl (fun (known : List (String × FieldType)) (name, type) =>
    if known.any (·.1 = name) then known.map fun e => if e.1 = name then (name, type) else e
    else known ++ [(name, type)]) []
  .dictionary (entries.flatMap fun (name, type) => [.text name, declaredMeaning t.classes type])

/-- What a type has under a name without declaring it. -/
def inherent? (t : RecordType) (name : String) : Option Inherent :=
  let structured := if t.isStructured then structuredInherent? name else none
  match structured, t.source with
  | some found, _ => some found
  | none, .undeclared | none, .asked _ => plain
  | none, _ => if name = schemaMember then some .ofType else plain
where
  plain : Option Inherent :=
    if name = "__class__" then some (knownText "type" t.shown)
    else if name = "__module__" then some (.value (.text "__main__"))
    else if name = "__weakref__" then some (.value .null)
    else if name = "__doc__" then some (.value t.description)
    else if name = "__annotations__" then
      some (knownText "dict" (t.ownTypesMeaning.shown.toOption.getD ""))
    else if name = "__dict__" then some (knownText "dict" "\x7b\x7d")
    else if inherentFunctions.contains name then
      some (knownText "method-wrapper" ("<method-wrapper '" ++ name ++ "'>"))
    else if hiddenNames.contains name then some .hidden
    else none

end RecordType

end SheetExport
