/-
**What names mean on records, on their types, and on all that these lead to.**

An `Attribute` is a value, a record, a record type, a function of a member, which may be bound to
what it belongs to, or a property. `Attribute.readWithin` says what a name means on one: on a record,
a property comes before what the record itself has under the name, and that before the other members;
members for all names and for missing ones are asked where a type has them.
-/

import SheetExport.Declaration
import SheetExport.Value.Product

namespace SheetExport

/-- A record. -/
inductive Record
  | object (type : RecordType) (attributes : List (String × Value))
  | bare (v : Value)

/-- The type of a record. -/
def Record.type : Record → RecordType
  | object type _ => type
  | bare v => .ofName v.typeName

/-- Is the absent value. -/
def Record.isNull : Record → Bool
  | bare .null => true
  | _ => false

/-- A function of a member, with a parameter for what it belongs to if it takes that. -/
structure MemberFunction where
  name : String
  parameters : List Parameter
  body : Body

/-- What a name means. -/
inductive Attribute
  | meaning (m : Annotation.Meaning)
  | record (r : Record)
  | type (t : RecordType)
  | function (f : MemberFunction)
  | bound (f : MemberFunction) (owner : Attribute)
  /-- A function that records have without a member for it. -/
  | inherent (name : String) (r : Record)
  /-- A property of a name, with what gives its value if something does. -/
  | property (getter? : Option MemberFunction)

namespace Attribute

/-- A value. -/
@[match_pattern] abbrev value (v : Value) : Attribute := meaning (.value v)

/-- A value of a type of which only the text is known. -/
def shownAs (type text : String) : Attribute := meaning <| Annotation.shownValue type text

/-- What lookups come to that never end. -/
def endless : Fault := .issue .recursion "maximum recursion depth exceeded"

/-- What a meaning has under a name. -/
def ofMeaning (name : String) (m : Annotation.Meaning) : Except Fault Attribute :=
  match Annotation.attributeOf name m with
  | .ok found => .ok (meaning found)
  | .error defect => .error (.issue defect.kind defect.message)

/-! ### As values -/

/-- The text of what a function is bound to, if that is the record of the given text. -/
def ownerText (shown : Unit → Except Fault String) : Attribute → Except Fault String
  | type t => .ok t.shown
  | _ => shown ()

/-- What a name means as a value, on the record of the given text. -/
def toValue (shown : Unit → Except Fault String) : Attribute → Value
  | value v => v
  | meaning m => .code m.typeName m.shown
  | record r => .code r.type.name (shown ())
  | type t => .code "type" (.ok t.shown)
  | function f => .code "function" (.ok (functionText f.name))
  | bound f owner => .code "method" ((owner.ownerText shown).map (boundText f.name))
  | inherent name r =>
    let path := if (RecordType.structuredInherent? name).isSome then r.type.title ++ "." ++ name
      else name
    .code "method" ((shown ()).map (boundText path))
  | property _ => .code "property" (.ok "<property object>")

/-- The name of the type of what a name means. -/
def typePath (a : Attribute) : String :=
  match a with
  | value v => v.typePath
  | meaning m => m.typeName
  | record r => r.type.name
  | a => (a.toValue fun _ => .ok "").typeName

end Attribute

/-! ### Members -/

/-- What reads the value of a name off something. -/
abbrev Reader := Attribute → String → Except Fault Value

/-- The texts of several attributes, joined. -/
def joinTexts (read : String → Except Fault Value) : List String → Except Fault String
  | [] => .ok ""
  | name :: rest =>
    match (read name).bind Value.display with
    | .error fault => .error fault
    | .ok first => (joinTexts read rest).map (first ++ ·)

/-- The result of a body, when `read` gives the attributes' values. -/
def Body.run (read : String → Except Fault Value) : Body → Except Fault Value
  | field name => read name
  | constant v => .ok v
  | times name factor => (read name).bind (Value.scale factor)
  | concat names => (joinTexts read names).map .text
  | raises text => .error (.raised text)

/-- What reads its result off an owner. -/
def propertyFunction (name : String) (body : Body) : MemberFunction :=
  ⟨name, [.owner "self"], body⟩

/-- A member of a name as it is read off a type. -/
def Member.attributeOnType (name : String) (t : RecordType) : Member → Attribute
  | constant v => .value v
  | method parameters body _ => .function ⟨name, .owner "self" :: parameters, body⟩
  | typeMethod true parameters body => .bound ⟨name, .owner "cls" :: parameters, body⟩ (.type t)
  | typeMethod false parameters body => .function ⟨name, parameters, body⟩
  | property body _ => .property (some (propertyFunction name body))
  | writeOnly => .property none

/-- A member of a name as it is read off a record of a type. -/
def Member.attributeOnRecord (read : Reader) (name : String) (r : Record) (t : RecordType) (m : Member) :
    Except Fault Attribute :=
  match m with
  | method parameters body _ =>
    .ok (.bound ⟨name, .owner "self" :: parameters, body⟩ (.record r))
  | property body _ => (body.run (read (.record r))).map .value
  | writeOnly => .error (.noGetter t.name name)
  | m => .ok (m.attributeOnType name t)

/-- The result of code that is called with so many arguments by their places and with those of the
given names. -/
def Attribute.callWith (read : Reader) (count : Nat) (named : List String) (a : Attribute) :
    Except Fault Value :=
  match a with
  | bound f owner =>
    (checkArguments f.name f.parameters (count + 1) named).bind fun _ => f.body.run (read owner)
  | function f =>
    (checkArguments f.name f.parameters count named).bind fun _ =>
      f.body.run (read (.value .null))
  | other => .error (.notCallable other.typePath)

/-! ### Names on types -/

/-- What a class tells of itself, whatever its members are. -/
def RecordType.fact? (t : RecordType) (name : String) : Option Attribute :=
  match name with
  | "__name__" => some (.value (.text t.name))
  | "__qualname__" => some (.value (.text t.title))
  | "__base__" => some (t.base?.elim (.meaning (.named Annotation.objectClass)) .type)
  | "__annotations__" => if (t.member? name).isSome then none else some (.meaning t.ownTypesMeaning)
  | "__doc__" => if (t.member? name).isSome then none else some (.value t.description)
  | "__module__" => if (t.member? name).isSome then none else some (.value (.text "__main__"))
  | "__weakref__" =>
    if (t.member? name).isSome || t.slots?.isSome then none
    else
      some (.shownAs "getset_descriptor"
        ("<attribute '__weakref__' of '" ++ t.name ++ "' objects>"))
  | _ =>
    let isOfClass := Annotation.words ("__class__ __mro__ __bases__ __dict__ __abstractmethods__ " ++
      "__text_signature__ __flags__ __basicsize__ __itemsize__ __dictoffset__ __weakrefoffset__")
    if isOfClass.contains name then
      (Attribute.ofMeaning name (.named t.asClass)).toOption
    else none

/-- A function that a type has without a member for it, as it is read off the type. -/
def RecordType.inherentFunction (t : RecordType) (name : String) : Attribute :=
  .function ⟨t.title ++ "." ++ name, [.owner "self"], .constant .null⟩

/-- What a type has under a name. -/
def RecordType.attribute (t : RecordType) (name : String) : Except Fault Attribute :=
  match t.fact? name, t.member? name, t.inherent? name with
  | some found, _, _ => .ok found
  | none, some m, _ => .ok (m.attributeOnType name t)
  | none, none, some .ofType =>
    .ok (.bound ⟨name, [.owner "cls"], .constant .null⟩ (.type t))
  | none, none, some .display | none, none, some .comparison | none, none, some .constructor =>
    .ok (t.inherentFunction name)
  | none, none, _ =>
    match if t.isStructured then RecordType.structuredInherent? name else none with
    | some (.value v) => .ok (.value v)
    | _ => Attribute.ofMeaning name (.named t.asClass)

/-! ### Names on functions -/

namespace Attribute

/-- What a function has under a name. -/
def ofFunction (f : MemberFunction) (name : String) : Except Fault Attribute :=
  let defaults := (f.parameters.filter (·.hasDefault)).map fun _ => Annotation.Meaning.integer 1
  match name with
  | "__name__" | "__qualname__" => .ok (value (.text f.name))
  | "__module__" => .ok (value (.text "__main__"))
  | "__doc__" | "__kwdefaults__" | "__closure__" => .ok (value .null)
  | "__defaults__" => .ok (if defaults.isEmpty then value .null else meaning (.tuple defaults))
  | "__dict__" | "__annotations__" => .ok (meaning (.dictionary []))
  | _ => ofMeaning name <| Annotation.shownValue "function" (functionText f.name)

/-- What a property has under a name. -/
def ofProperty (getter? : Option MemberFunction) (name : String) : Except Fault Attribute :=
  match name with
  | "fget" => .ok (getter?.elim (value .null) function)
  | "fset" | "fdel" | "__doc__" => .ok (value .null)
  | "getter" | "setter" | "deleter" | "__get__" | "__set__" | "__delete__" | "__set_name__" =>
    .ok (shownAs Annotation.Meaning.routineType ("<built-in method " ++ name ++ ">"))
  | "__isabstractmethod__" => .ok (value (.bool false))
  | _ => ofMeaning name <| Annotation.shownValue "property" "<property object>"

/-! ### Names on records -/

/-- What a record has under a name without a member for it and without an attribute of its own. -/
def inherited (type : RecordType) (r : Record) (attributes : List (String × Value))
    (name : String) : Except Fault Attribute :=
  match name, type.inherent? name with
  | "__class__", _ => .ok (.type type)
  | "__annotations__", _ => .ok (meaning type.ownTypesMeaning)
  | "__dict__", _ =>
    .ok (meaning (.dictionary (attributes.flatMap fun (n, v) => [.text n, .value v])))
  | _, some (.value (.code "method-wrapper" _)) | _, some .display | _, some .comparison
  | _, some .constructor => .ok (inherent name r)
  | _, some .ofType => type.attribute name
  | _, some (.value v) => .ok (value v)
  | _, some .hidden | _, none => .error (.noAttribute type.name name)

/-- What a record of a type has under a name, apart from what members for all names give. -/
def ofRecord (read : Reader) (type : RecordType) (attributes : List (String × Value))
    (name : String) : Except Fault Attribute :=
  let r := Record.object type attributes
  match type.member? name, attributes.lookup name with
  | some m, found =>
    if m.isProperty then m.attributeOnRecord read name r type
    else
      match found with
      | some v => .ok (value v)
      | none => m.attributeOnRecord read name r type
  | none, some v => .ok (value v)
  | none, none => inherited type r attributes name

/-- What the member of a name gives that a type is asked for about a record, with so many arguments
by their places. -/
def ask? (read : Reader) (r : Record) (type : RecordType) (name : String) (count : Nat) :
    Option (Except Fault Value) :=
  (type.member? name).map fun m =>
    (m.attributeOnRecord read name r type).bind (callWith read count [])

/-- What a name means, with code that reads further names to a depth. The text of the record that all
begins with is needed where code is shown. -/
def readWithin (shown : Unit → Except Fault String) :
    Nat → Attribute → String → Except Fault Attribute
  | 0, _, _ => .error endless
  | depth + 1, a, name =>
    let read : Reader := fun owner inner =>
      (readWithin shown depth owner inner).map (toValue shown)
    match a with
    | record (.object t attributes) =>
      let r := Record.object t attributes
      let found := match ask? read r t "__getattribute__" 1 with
        | some given => given.map value
        | none => ofRecord read t attributes name
      match found with
      | .ok found => .ok found
      | .error fault =>
        if fault.kind ≠ .member then .error fault
        else
          match ask? read r t "__getattr__" 1 with
          | some given => given.map value
          | none => .error fault
    | record (.bare v) => ofMeaning name (.value v)
    | meaning m => ofMeaning name m
    | type t => t.attribute name
    | function f => ofFunction f name
    | bound f owner =>
      match name with
      | "__self__" => .ok owner
      | "__func__" => .ok (function f)
      | _ => ofFunction f name
    | inherent called r =>
      if name = "__self__" then .ok (record r)
      else readWithin shown depth (r.type.inherentFunction called) name
    | property getter? => ofProperty getter? name

/-- How far code reads further names at most: a longer way comes back to where it was. -/
def depthOf : Attribute → Nat
  | record r => 2 * r.type.members.length + 4
  | type t => 2 * t.members.length + 4
  | _ => 4

/-- What a name means on something, with the text of the record that all begins with. -/
def readShown (shown : Unit → Except Fault String) (a : Attribute) (name : String) :
    Except Fault Attribute :=
  a.readWithin shown a.depthOf name

end Attribute

end SheetExport
