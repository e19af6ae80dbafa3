/-
**How record types are declared.**

A record type is declared with fields and members, and may be derived from another one.
`Declaration.type` is the type that is declared, with what it inherits, and `Declaration.fault?` says
what no type can be declared with. A sheet can be declared on a type that has fields
(`RecordType.onSheet`).
-/

import SheetExport.RecordType

namespace SheetExport

/-- What is wrong with a declaration. -/
inductive DeclarationDefect
  | notStructured (type : String)
  | noSchema (type : String)
  | wrongSchema (type given : String)
  | noSheet (type : String)
deriving Repr, DecidableEq

/-- The wording of a defect. -/
def DeclarationDefect.text : DeclarationDefect → String
  | notStructured type => "@sheet expects a dataclass, got " ++ type
  | noSchema type =>
    Text.quoted type ++
      " declares no sheet schema; decorate it with @sheet or implement __sheet_schema__()"
  | wrongSchema type given =>
    type ++ ".__sheet_schema__() returned " ++ given ++ ", expected SpecRecordSchema"
  | noSheet type => type ++ " carries no sheet declaration"

/-- The name of the type of a member where it is declared. -/
def Member.typePath : Member → String
  | constant v => v.typePath
  | method .. => "function"
  | typeMethod true .. => "classmethod"
  | typeMethod false .. => "staticmethod"
  | property .. | writeOnly => "property"

/-- The text of the type of a member where it is declared. -/
def Member.typeShown : Member → String
  | constant v => KnownClass.shown <| Annotation.classOfValue v
  | m => classText m.typePath

/-- What a record type is declared with. -/
structure Declaration where
  key : ClassKey
  base? : Option RecordType
  /-- The classes that can be named where the type is declared. -/
  classes : FieldType.Namespace
  /-- Has fields that its records are made of. -/
  isStructured : Bool
  fields : List Binding
  members : List (String × Member)

namespace Declaration

/-- The type that the declared one is derived from, or one without anything. -/
def base (d : Declaration) : RecordType :=
  d.base?.getD { RecordType.ofName "object" with classes := d.classes }

/-- The member of a name that is declared last. -/
def member? (d : Declaration) (name : String) : Option Member := d.members.reverse.lookup name

/-- The fields with one more, which replaces an earlier one of its name at that one's place. -/
def overrideBinding (bindings : List Binding) (b : Binding) : List Binding :=
  if bindings.any (·.name = b.name) then
    bindings.map fun earlier => if earlier.name = b.name then b else earlier
  else bindings ++ [b]

/-- A field as the constructor has it. What its class has under its name itself takes the place of
its declaration; without a declaration, what its class inherits under the name is its default. -/
def settleBinding (d : Declaration) (b : Binding) : Binding :=
  match d.member? b.name with
  | some m => { b with column := none, default := some (m.onType b.name d.key.name) }
  | none =>
    if b.default.isSome || b.column.isSome then b
    else { b with default := (d.base.member? b.name).map (Member.onType b.name d.key.name) }

/-- What a class has under the name of a field: the default, and without a constructor the
declaration of the column itself. -/
def fieldMember? (isStructured : Bool) (b : Binding) : Option (String × Member) :=
  let found := if !isStructured && b.column.isSome then some (Value.code "Field" (.ok "Field()"))
    else b.default
  found.map fun v => (b.name, .constant v)

/-- Names that a type with fields has something of its own under, unless a member is declared. -/
def constructedNames : List String :=
  Annotation.words "__init__ __repr__ __eq__ __hash__ __match_args__"

/-- Names that a type with fields has something of its own under, whatever is declared. -/
def replacedNames : List String := Annotation.words "__dataclass_params__ __dataclass_fields__"

/-- Names that no type inherits anything under. -/
def ownNames : List String := Annotation.words "__doc__ __module__ __annotations__"

/-- Names that a type does not keep what is declared under. -/
def consumedNames : List String := Annotation.words "__qualname__ __classcell__"

/-- The name that messages give the type. -/
def title (d : Declaration) : String :=
  match d.member? "__qualname__" with
  | some (.constant v) => v.textual?.getD d.key.name
  | _ => d.key.name

/-- The members that the type has of its own, nearest first. -/
def ownMembers (d : Declaration) : List (String × Member) :=
  let isKept := fun (entry : String × Member) =>
    let (name, m) := entry
    let isEmptied := match m with
      | .constant v => name = "__doc__" && !v.isTruthy
      | _ => false
    !consumedNames.contains name && !(d.isStructured && (isEmptied || replacedNames.contains name))
  d.members.reverse.filter isKept

/-- The members that the type inherits. -/
def inheritedMembers (d : Declaration) : List (String × Member) :=
  d.base.members.filter fun (name, _) =>
    !ownNames.contains name &&
      !(d.isStructured && (constructedNames ++ replacedNames).contains name)

/-- What sets the fields of records of the type. -/
def constructor? (d : Declaration) : Option Constructor :=
  if (d.member? RecordType.settingMember).isSome then none
  else if d.isStructured then
    let isFollowed := (d.member? RecordType.followingMember).isSome ||
      (d.base.member? RecordType.followingMember).isSome
    some ⟨d.title, isFollowed⟩
  else d.base.constructor?

/-- The fields that records of the type are made of. -/
def bindings (d : Declaration) : List Binding :=
  if d.isStructured then (d.fields.map d.settleBinding).foldl overrideBinding d.base.bindings
  else d.base.bindings

/-- The description of the type: the call that makes a record of it, if it has fields. -/
def description (d : Declaration) : Value :=
  if !d.isStructured then .null
  else
    match d.member? RecordType.settingMember with
    | none => .text (d.key.name ++ RecordType.fieldsText d.classes d.bindings)
    | some (.method parameters _ _) => .text (d.key.name ++ RecordType.parametersText parameters)
    | some _ => .text d.key.name

/-- A name as a type of the given name keeps it: names that begin with two low lines and do not end
so are its own. -/
def keptName (type name : String) : String :=
  if name.startsWith "__" && !name.endsWith "__" then
    "_" ++ String.ofList (type.toList.dropWhile (· = '_')) ++ name
  else name

/-- The names that the type lets its records have attributes under, if it names them. -/
def slots? (d : Declaration) : Option (List String) :=
  let inherited := match d.base? with
    | none => some []
    | some base => base.slots?
  match d.member? "__slots__" with
  | some (.constant v) =>
    v.textual?.bind fun s =>
      if s = "__dict__" then none
      else
        inherited.map fun names =>
          if s = "__weakref__" then names else keptName d.key.name s :: names
  | _ => none

/-- The type that is declared. -/
def type (d : Declaration) : RecordType where
  key := d.key
  title := d.title
  base? := d.base?
  classes := d.classes
  isStructured := d.isStructured || d.base.isStructured
  constructor? := d.constructor?
  bindings := d.bindings
  annotations :=
    let own := d.members.reverse ++ d.fields.reverse.filterMap (fieldMember? d.isStructured)
    let named := own.map fun (n, m) => (n, m.meaning n)
    d.base.annotations ++ d.fields.map fun b => ⟨named, b.name, b.type⟩
  ownTypes := d.fields.map fun b => (b.name, b.type)
  members :=
    d.ownMembers ++ d.fields.reverse.filterMap (fieldMember? d.isStructured) ++ d.inheritedMembers
  slots? := d.slots?
  description := d.description
  source := (d.member? RecordType.schemaMember).elim d.base.source .asked

/-! ### Faults -/

/-- A misuse in the given words. -/
def misuse (text : String) : Option Fault := some (.issue .type text)

/-- What the class has under names of its own. -/
def classNames (d : Declaration) : List String :=
  d.members.map Prod.fst ++
    (d.fields.filter fun b => b.column.isSome || b.default.isSome).map Binding.name

/-- Why a name cannot be the only one that records have an attribute under. -/
def slotFault? (d : Declaration) (name : String) : Option Fault :=
  let kept := keptName d.key.name name
  let isFree := d.base?.any (·.slots?.isNone)
  if !(name.toList |> Annotation.isIdentifier) then misuse "__slots__ must be identifiers"
  else if name = "__dict__" then
    if isFree then misuse "__dict__ slot disallowed: we already got one" else none
  else if name = "__weakref__" then
    if isFree then
      misuse "__weakref__ slot disallowed: either we already got one, or __itemsize__ != 0"
    else none
  else if d.classNames.contains kept && !consumedNames.contains kept then
    some (.issue .value (Text.quoted kept ++ " in __slots__ conflicts with class variable"))
  else none

/-- What the type cannot be made with. -/
def fault? (d : Declaration) : Option Fault :=
  let slots := (d.member? "__slots__").bind fun m => match m with
    | .constant v =>
      v.textual?.elim (misuse ("'" ++ v.typePath ++ "' object is not iterable")) d.slotFault?
    | m => misuse ("'" ++ m.typePath ++ "' object is not iterable")
  let title := (d.member? "__qualname__").bind fun m => match m with
    | .constant (.text _) | .constant (.textMember ..) => none
    | m => misuse ("type __qualname__ must be a str, not " ++ m.typePath)
  let cell := (d.member? "__classcell__").bind fun m =>
    misuse ("__classcell__ must be a nonlocal cell, not " ++ m.typeShown)
  (slots.or title).or cell

/-- Why no record can have a field of a name. -/
def fieldNameFault? (name : String) : Option Fault :=
  let cs := name.toList
  let malformed := fun (text line : String) =>
    some (Fault.issue .malformed (text ++ " (<string>, line " ++ line ++ ")"))
  if Annotation.keywords.contains name || cs.all Char.isDigit then malformed "invalid syntax" "2"
  else if Annotation.isIdentifier cs then none
  else if Annotation.isIdentifier ('_' :: cs) then malformed "invalid decimal literal" "2"
  else malformed "invalid syntax" "1"

/-- What the fields of the type cannot be made with. -/
def fieldFault? (d : Declaration) : Option Fault :=
  if !d.isStructured then none
  else
    match d.member? "__annotations__" with
    | some m => some (.noAttribute m.typePath "items")
    | none => d.bindings.findSome? fun b => fieldNameFault? b.name

end Declaration

namespace RecordType

/-- The type with a schema of its own. -/
def withSource (t : RecordType) (source : SchemaSource) : RecordType :=
  { t with source, members := t.members.filter (·.1 ≠ RecordType.schemaMember) }

/-- The type with a sheet of its own fields; only a type with fields can have one. -/
def onSheet (t : RecordType) (spec : SheetSpec) : Except DeclarationDefect RecordType :=
  if t.isStructured then .ok (t.withSource (.sheet spec)) else .error (.notStructured t.title)

end RecordType

end SheetExport
