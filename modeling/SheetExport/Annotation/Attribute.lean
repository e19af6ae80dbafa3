/-
**What meanings can be asked for.**

A value has the parts and the functions of its class; a class has a name, the classes it is derived
from, and functions, some of its own and some of its values; a type made of others has its parts.
`attributeOf` looks a name up in these, and `classOf` tells the class of a meaning. A module is
known by its name, and has classes and constants (`moduleMember?`); the module `builtins` has what
is known everywhere.
-/

import SheetExport.Annotation.Error
import SheetExport.Annotation.Scope
import SheetExport.Annotation.Typing
import SheetExport.Annotation.Vocabulary
import SheetExport.Value.Attribute

namespace SheetExport.Annotation

/-! ### Modules -/

/-- The ways of rounding that decimals name. -/
def roundingNames : List String :=
  words ("ROUND_CEILING ROUND_DOWN ROUND_FLOOR ROUND_HALF_DOWN ROUND_HALF_EVEN ROUND_HALF_UP " ++
    "ROUND_UP ROUND_05UP")

/-- The names of the classes of a module. -/
def moduleClassNames : List (String × List String) := [
  ("datetime", words "date datetime time timedelta"), ("decimal", ["Decimal"]),
  ("fractions", ["Fraction", "Decimal"]), ("typing", ["Any"]),
  ("numbers", words "Number Complex Real Rational Integral"),
  ("enum", words "Enum IntEnum StrEnum ReprEnum"), ("builtins", [])]

/-- The modules that are known by name. -/
def moduleNames : List String := moduleClassNames.map Prod.fst

/-- What a module has under the name of a constant. -/
def moduleConstant? (module name : String) : Option Meaning :=
  match module, name with
  | "datetime", "MINYEAR" => some (.integer 1)
  | "datetime", "MAXYEAR" => some (.integer 9999)
  | "decimal", "MAX_PREC" | "decimal", "MAX_EMAX" => some (.integer 999999999999999999)
  | "decimal", "MIN_EMIN" => some (.integer (-999999999999999999))
  | "decimal", name => if roundingNames.contains name then some (.text name) else none
  | "fractions", "math" => some (.module "math")
  | "typing", name => form? name
  | "builtins", name => everyday? name
  | _, _ => none

/-- What a module has under a name. -/
def moduleMember? (module name : String) : Option Meaning :=
  let classes := (moduleClassNames.lookup module).getD []
  match moduleConstant? module name, name with
  | some m, _ => some m
  | none, "__name__" => some (.text module)
  | none, "__package__" => some (.text "")
  | none, "__dict__" => some (.dictionary [])
  | none, name => if classes.contains name then some (.named (classOfName name)) else none

/-- The module of a name. -/
def importModule (name : Meaning) : Result Meaning :=
  match name.text? with
  | none => misused (.refused "module name must be a string")
  | some "" => .error (.invalid "Empty module name")
  | some s =>
    let first := String.ofList (s.toList.takeWhile (· ≠ '.'))
    if !moduleNames.contains first then
      .error (.issue .missingModule ("No module named " ++ Text.quoted first))
    else if first = s then .ok (.module s)
    else
      .error (.issue .missingModule ("No module named " ++ Text.quoted s ++ "; " ++
        Text.quoted first ++ " is not a package"))

/-! ### Classes of meanings -/

/-- Types of forms and of types made of others, which have a module. -/
def typingTypes : List String :=
  words "_SpecialForm ForwardRef _UnionGenericAlias _AnnotatedAlias"

/-- The class of a type of the given name. -/
def classOfType (type : String) : KnownClass :=
  if typingTypes.contains type then ⟨type, .other, "typing", .ordinary, [], []⟩
  else if type = "DecimalTuple" then ⟨type, .other, "decimal", .ordinary, ["tuple"], []⟩
  else
    match type.splitOn "." with
    | [module, name] =>
      let known := classOfName name
      if known.module = module then known
      else if module = "datetime" || module = "time" then
        { KnownClass.ofModule module name with parents := ["tuple"] }
      else .ofModule module name
    | _ => classOfName type

/-- The class of objects of which only a text is known. -/
def textOnlyClass : KnownClass := ⟨Value.objectType, .other, "__main__", .ordinary, [], []⟩

/-- The class of a value. -/
def classOfValue (v : Value) : KnownClass :=
  match v with
  | .null => FieldType.noneClass
  | .member label _ => .ofMembers (Value.enumerationName label)
  | .intMember label _ => .ofIntegers (Value.enumerationName label)
  | .textMember label _ => .ofTexts (Value.enumerationName label)
  | .quantity .. => .ofQuantities v.typeName
  | .object _ => textOnlyClass
  | .code type _ => classOfType type
  | v => classOfName v.typeName

/-- The class of a meaning. -/
def classOf (m : Meaning) : KnownClass :=
  match m with
  | .value v => classOfValue v
  | .made c _ => c
  | .named c =>
    match c.make with
    | .enumeration => .ofModule "enum" c.metaclass
    | .abstract => .ofModule "abc" c.metaclass
    | .universal => .ofModule "typing" c.metaclass
    | _ => classOfName c.metaclass
  | m => classOfType m.typeName

/-! ### Names of classes and of their values -/

/-- A name between two low lines on each side. -/
def isSpecial (name : String) : Bool :=
  name.startsWith "__" && name.endsWith "__" && 4 < name.length

/-- A class itself, apart from those that it is derived from, lets its values be asked for a
name. -/
def declares (c : KnownClass) (name : String) : Bool :=
  match c.ownName with
  | "object" => objectNames.contains name
  | "bool" => (words "__and__ __or__ __xor__ __rand__ __ror__ __rxor__ __repr__").contains name
  | "datetime" =>
    (timeNames ++ words ("astimezone combine ctime date fromtimestamp now strptime time " ++
      "timestamp timetuple timetz utcfromtimestamp utcnow utctimetuple __add__ __radd__ " ++
      "__sub__ __rsub__")).contains name && name ≠ "strftime"
  | type =>
    (namesOfType type).contains name ||
      (isErrorClass c && (words "args with_traceback add_note").contains name) ||
      (name = "__format__" && (words "int float complex str Decimal date time").contains type) ||
      (name = "__str__" && (words ("bytes Decimal Fraction date time datetime timedelta " ++
        "BaseException")).contains type) ||
      (c.make = .native && ["__hash__", "__repr__", "__eq__", "__getattribute__"].contains name)

/-- The class nearest to a given one that declares a name. -/
def declaring? (c : KnownClass) (name : String) : Option KnownClass :=
  (ancestors c).find? (declares · name)

/-- A function of a class and not of its values. -/
def isClassFunction (c : KnownClass) (name : String) : Bool :=
  (name ≠ "__new__" && specialClassFunctions.contains name &&
    (objectNames.contains name || (declaring? c name).isSome)) ||
    name = "__new__" || (ancestors c).any fun a => (classFunctions a.name).contains name

/-- The descriptions of a class, as far as it has some. -/
def descriptionOf (c : KnownClass) : Meaning :=
  (description? c.ownName).elim .absent .text

/-- Values of the class are changed, so that none can be in a set. -/
def isChangeable (c : KnownClass) : Bool :=
  (words "list dict set slice bytearray dict_keys dict_items").contains c.name && c.module = ""

/-- The values that a class itself has under a name. -/
def classValue? (c : KnownClass) (name : String) : Option Value :=
  let least := fun (v : Value) => if (words "min max resolution").contains name then
    v.attribute? name else none
  match c.path with
  | "datetime.date" => least (.date Date.bounds.1)
  | "datetime.time" => least (.time TimeOfDay.bounds.1)
  | "datetime.datetime" => least (.dateTime ⟨Date.bounds.1, TimeOfDay.bounds.1⟩)
  | "datetime.timedelta" => least (.duration ⟨0⟩)
  | _ => none

/-- What a class says of itself under a name. -/
def classFact? (c : KnownClass) (name : String) : Option Meaning :=
  let named := fun classes : List KnownClass => classes.map Meaning.named
  let parents := (ancestors c).drop 1
  match name with
  | "__name__" | "__qualname__" => some (.text c.ownName)
  | "__module__" =>
    if c.make = .derived then none
    else some (.text (if c.module = "" then "builtins" else c.module))
  | "__class__" => some (.named (classOf (.named c)))
  | "__mro__" => some (.tuple (named (ancestors c)))
  | "__bases__" => some (.tuple (named (parents.take 1)))
  | "__base__" => some (parents.head?.elim .absent .named)
  | "__doc__" => some (descriptionOf c)
  | "__hash__" => if isChangeable c then some .absent else none
  | "__dict__" => some (.other "mappingproxy" "mappingproxy(\x7b\x7d)" false)
  | "__text_signature__" => some .absent
  | "__weakrefoffset__" | "__dictoffset__" => some (.integer 0)
  | "__flags__" | "__basicsize__" | "__itemsize__" => some (shownValue "int" ("<" ++ name ++ ">"))
  | _ => none

/-- Functions that the class of classes has. -/
def metaFunctions : List String :=
  words ("mro __call__ __or__ __ror__ __subclasses__ __prepare__ __instancecheck__ " ++
    "__subclasscheck__")

/-- What a class has under a name. -/
def classAttribute (c : KnownClass) (name : String) : Result Meaning :=
  match classFact? c name, (classValue? c name), declaring? c name with
  | some m, _, _ => .ok m
  | none, some v, _ => .ok (.value v)
  | none, none, some owner =>
    if isClassFunction c name then .ok (.method (.named c) name)
    else if !(dataNames owner.name).contains name then .ok (.descriptor owner name)
    else if owner.make = .native then
      .ok (shownValue "getset_descriptor"
        ("<attribute '" ++ name ++ "' of '" ++ owner.path ++ "' objects>"))
    else .ok (shownValue "property" "<property object>")
  | none, none, none =>
    if isClassFunction c name then .ok (.method (.named c) name)
    else if metaFunctions.contains name then .ok (.method (.named c) name)
    else if name = "__abstractmethods__" || name = "__module__" then .error (.noSuchName name)
    else if c.make = .enumeration then .error (.noSuchName name)
    else .error (.noClassAttribute c.messageName name)

/-! ### Types made of others -/

/-- What a type made of others has under a name for its parts. -/
def partAttribute? (name : String) (m : Meaning) : Option Meaning :=
  match m, name with
  | .union _ members, "__args__" => some (.tuple members)
  | .union false _, "__origin__" => some (.form .union)
  | .union false members, "__name__" | .union false members, "__qualname__"
  | .union false members, "_name" =>
    let isOptional := members.length = 2 && members.any (·.same (.named FieldType.noneClass))
    some (.text (if isOptional then "Optional" else "Union"))
  | .applied _ arguments, "__args__" => some (.tuple arguments)
  | .applied origin _, "__origin__" => some (.named origin)
  | .annotated inner _, "__args__" => some (.tuple [inner])
  | .annotated inner _, "__origin__" => some inner
  | .annotated _ notes, "__metadata__" => some (.tuple notes)
  | .union .., "__parameters__" | .applied .., "__parameters__"
  | .annotated .., "__parameters__" => some (.tuple [])
  | .union .., "__class__" | .annotated .., "__class__" | .applied .., "__class__" =>
    some (.named (classOf m))
  | .form _, "__class__" => some (.named (classOf m))
  | .reference s, "__forward_arg__" => some (.text s)
  | _, _ => none

/-- Functions of forms and of types made of others. -/
def formFunctions : List String := words "__getitem__ __or__ __ror__ __call__"

/-! ### Values -/

/-- The name that a function calls itself by, and what it belongs to. -/
def functionFact? (name : String) (m : Meaning) : Option Meaning :=
  match m with
  | .function title _ defaults .. =>
    match name with
    | "__name__" => some (.text "<lambda>")
    | "__qualname__" => some (.text title)
    | "__defaults__" => some (if defaults.isEmpty then .absent else .tuple defaults)
    | "__doc__" | "__kwdefaults__" | "__closure__" | "__module__" => some .absent
    | "__dict__" | "__annotations__" => some (.dictionary [])
    | _ => none
  | .routine called =>
    match name with
    | "__name__" | "__qualname__" => some (.text called)
    | "__module__" => some (.text "builtins")
    | "__self__" => some (.module "builtins")
    | _ => none
  | .method owner called =>
    match name with
    | "__name__" => some (.text called)
    | "__qualname__" =>
      let title := match owner with
        | .named c => c.ownName
        | owner => (classOf owner).ownName
      some (.text (title ++ "." ++ called))
    | "__self__" => some owner
    | "__module__" => if m.typeName = "method-wrapper" then none else some .absent
    | _ => none
  | .descriptor c called =>
    match name with
    | "__name__" => some (.text called)
    | "__qualname__" => some (.text (c.ownName ++ "." ++ called))
    | "__objclass__" => some (.named c)
    | _ => none
  | _ => none

/-- What a value has under a name that is no function. -/
def dataOf? (name : String) (m : Meaning) : Option Meaning :=
  match m with
  | .value v =>
    match v, name with
    | .decimal _, "__module__" => some (.text "decimal")
    | .ratio _, "__module__" => some (.text "fractions")
    | .ratio _, "__slots__" => some (.tuple [.text "_numerator", .text "_denominator"])
    | .ratio q, "_numerator" => some (.integer q.num)
    | .ratio q, "_denominator" => some (.natural q.den)
    | _, _ => (v.attribute? name).map .value
  | .labelled _ names items => (names.zip items).lookup name
  | .range start stop step =>
    match name with
    | "start" => some (.integer start)
    | "stop" => some (.integer stop)
    | "step" => some (.integer step)
    | _ => none
  | .slice start stop step =>
    match name with
    | "start" => some start
    | "stop" => some stop
    | "step" => some step
    | _ => none
  | .made c arguments => if isErrorClass c then errorPart? c arguments name else none
  | .generator "generator" _ title .. =>
    if name = "__name__" then some (.text "<genexpr>")
    else if name = "__qualname__" then some (.text title)
    else if name = "gi_running" || name = "gi_suspended" then some (.truth false)
    else none
  | .view .. => if name = "mapping" then some (.other "mappingproxy" "mappingproxy(\x7b\x7d)" false)
    else none
  | m => functionFact? name m

/-- Names that enumerations and other classes that are declared give their values. -/
def declaredNames (c : KnownClass) : List String :=
  match c.make with
  | .native | .derived => []
  | .enumeration => words "__module__ __dict__ __objclass__ _sort_order_ _generate_next_value_"
  | _ => words "__module__"

/-- What a value has under a name. -/
def valueAttribute (name : String) (m : Meaning) : Result Meaning :=
  let c := classOf m
  match dataOf? name m with
  | some found => .ok found
  | none =>
    if name = "__class__" then .ok (.named c)
    else if name = "__doc__" then .ok (descriptionOf c)
    else if name = "__hash__" && m.unhashable?.isSome && isChangeable c then .ok .absent
    else if isClassFunction c name then .ok (.method (.named c) name)
    else if (declaring? c name).isSome || (namesOfType m.typeName).contains name then
      .ok (.method m name)
    else if name = "__module__" && (declaredNames c).contains name then .ok (.text c.module)
    else if (declaredNames c).contains name then .ok (shownValue "object" ("<" ++ name ++ ">"))
    else .error (.noAttribute m.typeName name)

/-- What a meaning has under a name. -/
def attributeOf (name : String) (m : Meaning) : Result Meaning :=
  match partAttribute? name m, m with
  | some part, _ => .ok part
  | none, .named c => classAttribute c name
  | none, .applied c _ => classAttribute c name
  | none, .annotated inner _ =>
    if formFunctions.contains name then .ok (.method m name)
    else if isSpecial name && !(objectNames ++ ["__module__", "__name__", "__qualname__"]).contains
        name then .error (.noSuchName name)
    else attributeOf name inner
  | none, .module module =>
    match moduleMember? module name with
    | some found => .ok found
    | none =>
      if name = "__doc__" then .ok (shownValue "str" ("<" ++ name ++ ">"))
      else if name = "__class__" then .ok (.named (classOf m))
      else if objectNames.contains name then .ok (.method m name)
      else .error (.noSuchName ("module '" ++ module ++ "' has no attribute '" ++ name ++ "'"))
  | none, .form f =>
    if name = "__name__" || name = "__qualname__" || name = "_name" then
      .ok (.text (if f = .optional then "Optional" else "Union"))
    else if name = "__module__" then .ok (.text "typing")
    else if (formFunctions ++ objectNames).contains name then .ok (.method m name)
    else .error (.noSuchName name)
  | none, .union false _ =>
    if (formFunctions ++ objectNames).contains name then .ok (.method m name)
    else if name = "__module__" then .ok (.text "typing")
    else .error (.noSuchName name)
  | none, other => valueAttribute name other

end SheetExport.Annotation
