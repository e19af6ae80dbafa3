/-
**Records.**

A record is an object of a record type with its attributes, or a bare value. `RecordType.record?`
makes one, unless what sets its attributes refuses them, and `Declaration.declare` makes a record
type. `Record.follow` says what names one after the other lead to from a record, and `Record.call`
what a record answers when it is called by a name.
-/

import SheetExport.Record.Attribute

namespace SheetExport

/-! ### Code that is called -/

namespace Attribute

/-- The result of calling a meaning without arguments. -/
def callMeaning (m : Annotation.Meaning) : Except Fault Attribute :=
  let called := Annotation.call ⟨[], [], false⟩ Annotation.evaluationDepth .outermost false m ⟨[], []⟩
  match called.result with
  | .ok found => .ok (meaning found)
  | .error defect => .error (.issue defect.kind defect.message)

/-- What names mean on something in values, with the text of the record that all begins with. -/
def reader (shown : Unit → Except Fault String) : Reader := fun a name =>
  (a.readShown shown name).map (toValue shown)

end Attribute

namespace Record

/-! ### Texts -/

/-- What a name means on a record, whose text is as given. -/
def readShown (r : Record) (shown : Unit → Except Fault String) (name : String) :
    Except Fault Attribute :=
  (Attribute.record r).readShown shown name

/-- A field and its value as a record's text has them. Inside of the text, the record itself is
shown by dots. -/
def fieldText (r : Record) (name : String) : Except Fault String :=
  let shown := fun _ => .ok "..."
  match (r.readShown shown name).bind fun a => (a.toValue shown).literal with
  | .error fault => .error fault
  | .ok shown => .ok (name ++ "=" ++ shown)

/-- The name that the text of a record begins with: that of what the record calls its type. -/
def typeText (r : Record) : Except Fault String :=
  let shown := fun _ => .ok "..."
  (r.readShown shown "__class__").bind fun type =>
    (type.readShown shown "__qualname__").bind fun name =>
      match name with
      | .value (.text s) => .ok s
      | other => .error (.issue .type ("unsupported operand type(s) for +: '" ++ other.typePath ++
          "' and 'str'"))

/-- The text of a record that says nothing else of its text: its type with the fields, or that of
the bare value. -/
def usualText (r : Record) : Except Fault String :=
  match r with
  | bare v => v.literal
  | object type _ =>
    if type.isStructured then
      r.typeText.bind fun title =>
        (type.bindings.mapM fun b => r.fieldText b.name).map fun fields =>
          title ++ "(" ++ ", ".intercalate fields ++ ")"
    else .ok ("<" ++ type.title ++ " object>")

/-- What the member of a name gives that the type of a record is asked for, with so many arguments by
their places. -/
def ask? (r : Record) (name : String) (count : Nat := 0) : Option (Except Fault Value) :=
  match r with
  | bare _ => none
  | object type _ =>
    Attribute.ask? (Attribute.reader fun _ => r.usualText) r type name count

/-- The text that a value is, where a text was asked for. -/
def textGiven (asked : String) (given : Except Fault Value) : Except Fault String :=
  given.bind fun v => v.textual?.elim (.error (.notText asked v.typePath)) .ok

/-- The text of a record as it would be written in code. -/
def literal (r : Record) : Except Fault String :=
  (r.ask? "__repr__").elim r.usualText (textGiven "__repr__")

/-- The text of a record. -/
def display (r : Record) : Except Fault String :=
  match r with
  | bare v => v.display
  | object _ _ =>
    ((r.ask? "__str__").or (r.ask? "__repr__")).elim r.usualText (textGiven "__str__")

/-! ### Names -/

/-- What a name means on a record. -/
def lookup (r : Record) (name : String) : Except Fault Attribute :=
  r.readShown (fun _ => r.literal) name

/-- What a name means on a record as a value. -/
def valueOf (r : Record) (name : String) : Except Fault Value :=
  (r.lookup name).map (Attribute.toValue fun _ => r.literal)

/-- What names one after the other lead to from a record, as a value. -/
def follow (r : Record) (names : List String) : Except Fault Value :=
  let shown := fun _ => r.literal
  (names.foldlM (Attribute.readShown shown) (Attribute.record r)).map
    (Attribute.toValue shown)

/-- The result of a function that records have without a member for it. -/
def callInherent (r : Record) (name : String) : Except Fault Value :=
  match name, r.type.isStructured with
  | "__repr__", true => r.usualText.map .text
  | "__str__", _ => r.literal.map .text
  | "__eq__", true =>
    .error (.issue .type (r.type.title ++ ".__eq__() " ++
      Annotation.missingText "positional" ["other"]))
  | "__init__", true =>
    match r.type.bindings.filter (·.default.isNone) with
    | [] => .ok .null
    | required => .error (.missingFields r.type.title (required.map Binding.name))
  | _, _ =>
    (Attribute.callMeaning (.method (.made r.type.asClass []) name)).map
      (Attribute.toValue fun _ => r.literal)

/-- What a record answers when it is called by a name without arguments. -/
def call (r : Record) (name : String) : Except Fault Value :=
  let shown := fun _ => r.literal
  (r.lookup name).bind fun a =>
    match a with
    | .inherent name r => r.callInherent name
    | .meaning m => (Attribute.callMeaning m).map (Attribute.toValue shown)
    | a => a.callWith (Attribute.reader shown) 0 []

/-- Whether so many items are any. -/
def countGiven (v : Value) : Except Fault Bool :=
  match v with
  | .bool b => .ok b
  | .int n | .intMember _ n =>
    if n < 0 then .error .negativeCount
    else if twoPow 63 ≤ n.toNat then .error .beyondCounts
    else .ok (n ≠ 0)
  | other => .error (.notCount other.typePath)

/-- Whether a record counts as true: as its type says, or because it has items. -/
def isTruthy (r : Record) : Except Fault Bool :=
  match r with
  | bare v => .ok v.isTruthy
  | object _ _ =>
    match r.ask? "__bool__", r.ask? "__len__" with
    | some given, _ =>
      given.bind fun v => match v with
        | .bool b => .ok b
        | other => .error (.notTruth other.typePath)
    | none, some given => given.bind countGiven
    | none, none => .ok true

/-! ### New records -/

/-- The record after an attribute is set, which its type may do in its own way or refuse. -/
def set (r : Record) (name : String) (v : Value) : Except Fault Record :=
  match r with
  | bare w =>
    match w with
    | .member .. | .intMember .. | .textMember .. | .object _ | .quantity .. => .ok r
    | w => .error (.noAttribute w.typePath name)
  | object type attributes =>
    match r.ask? "__setattr__" 2, type.member? name, type.slots? with
    | some given, _, _ => given.map fun _ => r
    | none, some m, slots? =>
      if m.isProperty then .error (.noSetter type.name name)
      else if slots?.any fun names => !names.contains name then
        .error (.issue .member ("'" ++ Text.cut shownTypeBytes type.name ++
          "' object attribute '" ++ name ++ "' is read-only"))
      else .ok (object type (attributes ++ [(name, v)]))
    | none, none, slots? =>
      if slots?.any fun names => !names.contains name then .error (.noAttribute type.name name)
      else .ok (object type (attributes ++ [(name, v)]))

/-- The record after several attributes are set. -/
def setAll (r : Record) (given : List (String × Value)) : Except Fault Record :=
  given.foldlM (fun r (name, v) => r.set name v) r

end Record

namespace RecordType

/-- The fields with the values given for them or else their defaults. -/
def fillFields (t : RecordType) (constructor : String) (given : List (String × Value)) :
    Except Fault (List (String × Value)) :=
  match given.find? fun (name, _) => !t.bindings.any (·.name = name) with
  | some (name, _) => .error (.unexpectedField constructor name)
  | none =>
    let filled := t.bindings.map fun b => (b.name, (given.lookup b.name).or b.default)
    match filled.filter (·.2.isNone) with
    | [] => .ok (filled.filterMap fun (name, v) => v.map fun v => (name, v))
    | missing => .error (.missingFields constructor (missing.map Prod.fst))

/-- What a member of the type gives that is called for the type, with so many arguments by their
places and with those of the given names. -/
def answer (t : RecordType) (m : Member) (name : String) (count : Nat) (named : List String) :
    Except Fault Value :=
  (m.attributeOnType name t).callWith (Attribute.reader fun _ => .ok t.shown) count named

/-- What a member gives that makes the records of the type instead of the type itself. A function of
records takes the type here. -/
def answerNew (t : RecordType) (m : Member) (named : List String) : Except Fault Value :=
  let name := "__new__"
  match m with
  | .method parameters body _ =>
    (Attribute.bound ⟨name, .owner "self" :: parameters, body⟩ (.type t)).callWith
      (Attribute.reader fun _ => .ok t.shown) 0 named
  | m => t.answer m name 1 named

/-- What a member gives that is asked for the schema of the type, if it can be called. -/
def askSchema? (t : RecordType) (m : Member) : Option (Except Fault Value) :=
  match m with
  | .method .. | .typeMethod .. => some (t.answer m schemaMember 0 [])
  | .property .. | .writeOnly | .constant _ => none

/-- A record of the type with the given attributes. -/
def record? (t : RecordType) (given : List (String × Value)) : Except Fault Record :=
  let named := if t.isStructured then given.map Prod.fst else []
  let further := if t.isStructured then [] else given
  let new := Record.object t []
  match t.member? "__new__", t.member? settingMember, t.constructor? with
  | some m, _, _ => (t.answerNew m named).bind fun v => (Record.bare v).setAll further
  | none, some m, _ =>
    let reader := Attribute.reader fun _ => new.literal
    let initial := (m.attributeOnRecord reader settingMember new t).bind
      (Attribute.callWith reader 0 named)
    initial.bind fun v =>
      match v with
      | .null => new.setAll further
      | v => .error (.issue .type ("__init__() should return None, not '" ++ v.typePath ++ "'"))
  | none, none, some constructor =>
    (t.fillFields constructor.name given).bind fun found =>
      (new.setAll found).bind fun r =>
        if constructor.isFollowed then (r.call followingMember).map fun _ => r else .ok r
  | none, none, none => new.setAll given

end RecordType

/-! ### New record types -/

/-- What the type that a new one is derived from does about it. -/
def RecordType.follows (t : RecordType) : Except Fault Unit :=
  let name := "__init_subclass__"
  let given := (t.base?.bind fun base => base.member? name).map fun m => match m with
    | .method parameters body _ =>
      (Attribute.bound ⟨name, .owner "self" :: parameters, body⟩ (.type t)).callWith
        (Attribute.reader fun _ => .ok t.shown) 0 []
    | m => t.answer m name 0 []
  (given.getD (.ok .null)).map fun _ => ()

/-- The type that is declared, if it can be. -/
def Declaration.declare (d : Declaration) : Except Fault RecordType :=
  match d.fault? with
  | some fault => .error fault
  | none =>
    d.type.follows.bind fun _ => d.fieldFault?.elim (.ok d.type) .error

end SheetExport
