/-
**Functions of values and of classes.**

`callMethod` calls a function of a value, or one of a class; `callDescriptor` calls a function of the
values of a class, whose first argument is such a value. The arguments are put at the places of the
parameters first, so that what is wrong with their count or their names shows before anything else.
-/

import SheetExport.Annotation.Method.Decimal
import SheetExport.Annotation.Method.Number
import SheetExport.Annotation.Method.Operator
import SheetExport.Annotation.Method.Temporal
import SheetExport.Annotation.Method.Text

namespace SheetExport.Annotation

/-! ### Functions of values -/

/-- The result of a function of a number. -/
def callNumber? (n : Numeric) (name : String) (found : List (Option Meaning)) :
    Option (Result Meaning) :=
  match n with
  | .whole n => callInteger? n name found
  | .float x => callFloat? x name
  | .decimal d => callDecimal? d name found
  | .complex z => if name = "conjugate" then some (.ok (.value (.complex z.conjugate))) else none
  | .ratio _ => none

/-- The result of a function of a temporal value. -/
def callTemporal? (v : Value) (name : String) (found : List (Option Meaning)) :
    Option (Result Meaning) :=
  match v with
  | .date d => callDate? d name found
  | .time t => callTime? t name found
  | .dateTime d => callDateTime? d name found
  | .duration d => callDuration? d name
  | _ => none

/-- The result of a function of an error. -/
def callError? (owner : Meaning) (name : String) : Option (Result Outcome) :=
  match owner, name with
  | .made .., "with_traceback" => some (.ok ⟨owner, none⟩)
  | .made .., "add_note" => some (.ok ⟨.absent, none⟩)
  | _, _ => none

/-- The result of a function of a value with the arguments at the places of its parameters. -/
def callSettled? (owner : Meaning) (name : String) (found : List (Option Meaning)) :
    Option (Result Outcome) :=
  let value := match owner.text?, owner.number?, owner with
    | some s, _, _ => callText? .ofText s.toList name found
    | none, some n, _ => callNumber? n name found
    | none, none, .value v => callTemporal? v name found
    | none, none, .bytes content => callText? .ofBytes (TextKind.charsOf content) name found
    | none, none, .tuple items | none, none, .labelled _ _ items => callTuple? items name found
    | none, none, .range start stop step => callRange? start stop step name found
    | none, none, .slice start stop step =>
      match name, found with
      | "indices", [some length] => some (boundsAmong start stop step length)
      | _, _ => none
    | none, none, _ => none
  match value, owner, setMembers? owner with
  | some result, _, _ => some (unchanged result)
  | none, .collection .list _ items, _ => callList? items name found
  | none, .collection .dictionary place items, _ => callDictionary? place items name found
  | none, .stream .., _ | none, .generator .., _ =>
    if name = "close" then some (.ok ⟨.absent, none⟩) else none
  | none, _, some members => callSet? owner members name found
  | none, _, none => callError? owner name

/-- The result of a function that a class gives its values. -/
def callOf (c : KnownClass) (title : String) (owner : Meaning) (name : String) (a : Arguments) :
    Result Outcome :=
  let settled := (signatureOf c.name name).settle (title ++ "." ++ name) name a
  let called := fun (found : List (Option Meaning)) =>
    let result := if isSpecial name then callSpecial? owner name found
      else callSettled? owner name found
    result.getD (.ok ⟨someObject, none⟩)
  match owner, owner.text?, name with
  | _, some s, "format" =>
    let named := fun name : String => match a.named.lookup name with
      | some m => Except.ok m
      | none => .error (.noKey (Text.quoted name))
    unchanged (fillText ⟨some a.plain, named⟩ s)
  | .collection .dictionary _ items, _, "update" => (updated items "update" a).map .change
  | .value (.ratio q), _, _ =>
    match callRatio? q name a with
    | some result => unchanged result
    | none => settled.bind called
  | _, _, _ => settled.bind called

/-! ### Functions of classes -/

/-- A value made by the first of the arguments, which has to be a class. -/
def makeNew (c : KnownClass) (a : Arguments) : Result Meaning :=
  match a.plain with
  | .named first :: rest =>
    if isSubclass first c then makeOf first { a with plain := rest }
    else
      refuse (c.ownName ++ ".__new__(" ++ first.ownName ++ "): " ++ first.ownName ++
        " is not a subtype of " ++ c.ownName)
  | [] => refuse (c.ownName ++ ".__new__(): not enough arguments")
  | m :: _ =>
    refuse (c.ownName ++ ".__new__(X): X is not a type object (" ++ (classOf m).ownName ++ ")")

/-- The class nearest to a given one that has a function of its own. -/
def functionOwner (c : KnownClass) (name : String) : KnownClass :=
  ((ancestors c).find? fun a => (classFunctions a.name).contains name).getD c

/-- The result of a function that every class has, if it is one of these. -/
def callMeta? (c : KnownClass) (name : String) (a : Arguments) : Option (Result Meaning) :=
  match name, a.plain with
  | "__new__", _ => some (makeNew c a)
  | "__call__", _ => some (makeOf c a)
  | "mro", _ => some (.ok (.list ((ancestors c).map .named)))
  | "__subclasses__", _ => some (.ok (.list []))
  | "__or__", [m] =>
    some (if isPlain m then either (.named c) m else .ok notImplemented)
  | "__ror__", [m] => some (if isPlain m then either m (.named c) else .ok notImplemented)
  | "__instancecheck__", [m] => some (.ok (.truth (isSubclass (classOf m) c)))
  | "__subclasscheck__", [.named other] => some (.ok (.truth (isSubclass other c)))
  | "__class_getitem__", [m] => some (subscript (.named c) m)
  | "__init_subclass__", _ => some (.ok .absent)
  | "__subclasshook__", _ => some (.ok notImplemented)
  | "__prepare__", _ => some (.ok (.dictionary []))
  | "__getformat__", _ => some (.ok (.text "IEEE, little-endian"))
  | _, _ => none

/-- The bytes that an argument writes in hexadecimal digits. -/
def bytesOfDigits (m : Meaning) : Result Meaning :=
  match m.text? with
  | some s => (readHex 0 s.toList).map .bytes
  | none => refuse ("fromhex() argument must be str, not " ++ m.typeName)

/-- The result of a function of a class with the arguments at the places of its parameters. -/
def callOwn? (c : KnownClass) (name : String) (found : List (Option Meaning)) :
    Option (Result Meaning) :=
  match c.name, name, found with
  | "str", "maketrans", _ => some (makeTable found)
  | _, "maketrans", _ => some (makeByteTable found)
  | "float", "fromhex", [some m] => some (fromHex m)
  | _, "fromhex", [some m] => some (bytesOfDigits m)
  | "bool", "from_bytes", _ => some ((fromBytes found).map fun m => .truth m.isTruthy)
  | _, "from_bytes", _ => some (fromBytes found)
  | "Decimal", "from_float", [some m] => some (decimalFrom m)
  | "dict", "fromkeys", _ => some (fromKeys found)
  | type, _, _ => callTemporalClass? type name found

/-- The result of a function of a class. -/
def callClass (c : KnownClass) (name : String) (a : Arguments) : Result Meaning :=
  let owner := functionOwner c name
  if owner.name = "Fraction" && (classFunctions owner.name).contains name then ratioFrom name a
  else
    let isMeta := (callMeta? c name a).isSome || metaFunctions.contains name
    let type := if isMeta then "type" else c.name
    let title := (if isMeta then "type" else c.ownName) ++ "." ++ name
    let known := if owner.name = "int" || owner.name = "bool" then "int" else type
    ((signatureOf known name).settle title name a).bind fun found =>
      ((callMeta? c name a).or (callOwn? c name found)).getD (.ok someObject)

/-! ### Calls -/

/-- The result of a function of a value or of a class. A function that is called where it is looked up
has the title of the class that it is from. -/
def callMethod (direct : Bool) (owner : Meaning) (name : String) (a : Arguments) :
    Result Outcome :=
  match owner with
  | .named c => unchanged (callClass c name a)
  | owner =>
    let c := classOf owner
    let declared := (declaring? c name).getD c
    callOf declared (if direct then declared else c).ownName owner name a

/-- The result of a function of the values of a class, the first argument being the value. -/
def callDescriptor (c : KnownClass) (name : String) (a : Arguments) : Result Outcome :=
  let isOperator := Meaning.isOperator c.name name
  match a.plain with
  | [] =>
    if c.name = "Fraction" then
      refuse ("Fraction." ++ name ++ "() " ++ missingText "positional" ["self"])
    else if isOperator then
      refuse ("descriptor '" ++ name ++ "' of '" ++ c.messageName ++ "' object needs an argument")
    else refuse ("unbound method " ++ c.ownName ++ "." ++ name ++ "() needs an argument")
  | owner :: rest =>
    if isSubclass (classOf owner) c then callOf c c.ownName owner name { a with plain := rest }
    else if c.name = "Fraction" then .error (.noAttribute owner.typeName "_numerator")
    else if isOperator then
      refuse ("descriptor '" ++ name ++ "' requires a '" ++ c.messageName ++
        "' object but received a '" ++ owner.typeName ++ "'")
    else
      refuse ("descriptor '" ++ name ++ "' for '" ++ c.messageName ++
        "' objects doesn't apply to a '" ++ owner.typeName ++ "' object")

end SheetExport.Annotation
