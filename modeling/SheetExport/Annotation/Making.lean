/-
**Values made by classes.**

`makeOf` makes a value of a class from the arguments of a call. Numbers, temporal values, texts and
collections are worked out; errors keep what they are made of; and of values of other classes only
the type is known.
-/

import SheetExport.Annotation.Arithmetic
import SheetExport.Annotation.Making.Temporal

namespace SheetExport.Annotation

/-- A value of which nothing is known. -/
def someObject : Meaning := shownValue "object" "<object>"

/-! ### Texts and bytes -/

/-- The encoding and the recovery that are given by their names. -/
def encodingOf (verb title : String) (encoding errors : Option Meaning) :
    Result (Encoding × Encoding.Recovery) := do
  let nameOf := fun (parameter default : String) (m : Option Meaning) => match m with
    | none => Except.ok default
    | some m => match m.text? with
      | some s => .ok s
      | none => refuse (title ++ "() argument '" ++ parameter ++ "' must be str, not " ++
          m.typeName)
  let name ← nameOf "encoding" "utf-8" encoding
  let recovery ← nameOf "errors" "strict" errors
  return (← ofValues (Encoding.ofName verb name), .ofName recovery)

/-- A text, made of the arguments of a call. -/
def makeText (a : Arguments) : Result Meaning := do
  match ← Signature.settle (.parameters ["object", "encoding", "errors"] 0 3) "str" "str" a with
  | [m, none, none] => (m.elim (.ok "") displayText).map .text
  | [m, encoding, errors] =>
    let (e, recovery) ← encodingOf "decode" "str" encoding errors
    match m with
    | none => return .text ""
    | some (.bytes content) => (ofValues (e.decode recovery content)).map .text
    | some m =>
      if m.text?.isSome then refuse "decoding str is not supported"
      else refuse ("decoding to str: need a bytes-like object, " ++ m.typeName ++ " found")
  | _ => return .absent

/-- A byte that an integer is; what it is called is that of a class. -/
def byteOf (name : String) (m : Meaning) : Result UInt8 :=
  (indexOf m).bind fun n =>
    if n < 0 ∨ 256 ≤ n then
      .error (.invalid ((if name = "bytes" then "bytes" else "byte") ++ " must be in range(0, 256)"))
    else .ok (.ofNat n.toNat)

/-- The bytes that a value is made into by a class. -/
def toBytes (name : String) (m : Meaning) : Result (List UInt8) :=
  match m, m.text?, m.integer?, itemsOf? m with
  | .bytes content, _, _, _ => .ok content
  | _, some _, _, _ => refuse "string argument without an encoding"
  | _, none, some n, _ =>
    if n < 0 then .error (.invalid "negative count")
    else if itemLimit < n.toNat then .error (.ofFault .outOfMemory)
    else .ok (List.replicate n.toNat 0)
  | _, none, none, some items => items.mapM (byteOf name)
  | _, none, none, none => 
    refuse ("cannot convert '" ++ m.typeName ++ "' object to " ++ name)

/-- Bytes, made by a class of the arguments of a call. -/
def bytesMade (name : String) (a : Arguments) : Result (List UInt8) := do
  match ← Signature.settle (.parameters ["source", "encoding", "errors"] 0 3) name name a with
  | [none, none, none] => return []
  | [some m, none, none] => toBytes name m
  | [m, encoding, errors] =>
    let (e, recovery) ← encodingOf "encode" name encoding errors
    match m.bind Meaning.text?, encoding with
    | some _, none => refuse "string argument without an encoding"
    | some s, some _ => ofValues (e.encode recovery s)
    | none, some _ => refuse "encoding without a string argument"
    | none, none => refuse "errors without a string argument"
  | _ => return []

/-! ### Collections -/

/-- The keys and values that another value is made into. -/
def pairItems (m : Meaning) : Result (List Meaning) :=
  match m with
  | .collection .dictionary _ items => .ok items
  | other =>
    if hasKeys other then refuse keysUnbound else (itemsOf other).bind (fromItems 0)
where
  fromItems (place : Nat) : List Meaning → Result (List Meaning)
    | [] => .ok []
    | m :: rest =>
      let element := "dictionary update sequence element #" ++ toString place
      match itemsOf? m with
      | none => refuse ("cannot convert " ++ element ++ " to a sequence")
      | some [key, value] =>
        (checkHashable [key]).bind fun _ =>
          (fromItems (place + 1) rest).map (key :: value :: ·)
      | some items =>
        .error (.invalid (element ++ " has length " ++ toString items.length ++ "; 2 is required"))

/-- The keys and values that come by turns in arguments with names. -/
def namedPairs (named : List (String × Meaning)) : List Meaning :=
  named.flatMap fun (name, m) => [.text name, m]

/-- Keys and values that come by turns, with those that arguments give. -/
def updated (earlier : List Meaning) (name : String) (a : Arguments) : Result (List Meaning) :=
  match a.plain with
  | [] => .ok (putPairs earlier (namedPairs a.named))
  | [m] => (pairItems m).map fun items => putPairs (putPairs earlier items) (namedPairs a.named)
  | several => (checkCount name 0 1 several.length).map fun _ => []

/-- A range, made of the arguments of a call. -/
def makeRange (a : Arguments) : Result Meaning := do
  let found ← Signature.settle (.between 1 3) "range" "range" a
  match ← (found.filterMap id).mapM indexOf with
  | [stop] => return .range 0 stop 1
  | [start, stop] => return .range start stop 1
  | [start, stop, step] =>
    if step = 0 then .error (.invalid "range() arg 3 must not be zero")
    else return .range start stop step
  | _ => return .absent

/-- Items with their numbers, made of the arguments of a call. -/
def makeNumbered (a : Arguments) : Result Meaning := do
  let missing := a.plain.isEmpty && (a.named.lookup "iterable").isNone
  if missing && a.named.isEmpty then refuse "enumerate() missing required argument 'iterable'"
  match ← Signature.settle (.parameters ["iterable", "start"] 1 2) "enumerate" "enumerate" a with
  | [some m, start] =>
    let first ← start.elim (.ok 0) indexOf
    return .lazily "enumerate" (← iterator m) [.integer first]
  | _ => return .absent

/-- Items of several meanings side by side, made of the arguments of a call. -/
def makeZipped (a : Arguments) : Result Meaning :=
  match a.named.find? (·.1 ≠ "strict") with
  | some (name, _) => refuse ("'" ++ name ++ "' is an invalid keyword argument for zip()")
  | none =>
    (a.plain.mapM iterator).map fun rows =>
      .lazily "zip" (.tuple rows) [.truth ((a.named.lookup "strict").any Meaning.isTruthy)]

/-- What a function gives for items, made of the arguments of a call. -/
def makeMapped (a : Arguments) : Result Meaning :=
  match a.plain, a.named with
  | _, _ :: _ => refuse "map() takes no keyword arguments"
  | f :: m :: others, [] =>
    ((m :: others).mapM iterator).map fun rows => .lazily "map" (.tuple (f :: rows)) []
  | _, [] => refuse "map() must have at least two arguments."

/-- Items for which a function holds, made of the arguments of a call. -/
def makeFiltered (a : Arguments) : Result Meaning :=
  (Signature.settle (.between 2 2) "filter" "filter" a).bind fun found =>
    match found with
    | [some f, some m] =>
      (iterator m).map fun items => .lazily "filter" (.tuple [f, items]) []
    | _ => .ok .absent

/-- Items in the reverse order, made of the arguments of a call. -/
def makeReversed (a : Arguments) : Result Meaning :=
  (Signature.settle (.between 1 1) "reversed" "reversed" a).bind fun found =>
    let m := (found.head?.join).getD .absent
    let stream := fun (type : String) (items : List Meaning) =>
      Except.ok (Meaning.stream type 0 items.reverse)
    match m, m.text? with
    | .tuple items, _ | .labelled _ _ items, _ => stream "reversed" items
    | .collection .list _ items, _ => stream "list_reverseiterator" items
    | .collection .dictionary _ items, _ => stream "dict_reversekeyiterator" (Meaning.keysOf items)
    | .view kind _ items, _ => stream "dict_reverseitemiterator" (Meaning.viewed kind items)
    | .range start stop step, _ => stream "range_iterator" (rangeItems start stop step)
    | .bytes _, _ => (itemsOf m).bind (stream "reversed")
    | _, some s => stream "reversed" (lettersOf s)
    | _, none => refuse ("'" ++ m.typeName ++ "' object is not reversible")

/-- A collection of the given name, made of items. -/
def collectionOf? (name : String) (items : List Meaning) : Option (Result Meaning) :=
  match name with
  | "list" => some (.ok (.list items))
  | "tuple" => some (.ok (.tuple items))
  | "set" => some (collectSet items)
  | "frozenset" =>
    some ((checkHashable items).map fun _ => .frozen (Meaning.membersOf items))
  | _ => none

/-! ### Classes -/

/-- Classes that no other one is derived from. -/
def isFinal (c : KnownClass) : Bool :=
  (words "bool NoneType function range slice memoryview generator ellipsis").contains c.ownName &&
    c.module = ""

/-- The first class that comes again. -/
def repeatedClass? : List KnownClass → Option KnownClass
  | [] => none
  | c :: rest => if rest.contains c then some c else repeatedClass? rest

/-- A class, made of a name, of the classes that it is derived from, and of what it has. -/
def makeClass (name bases content : Meaning) : Result Meaning :=
  let argument := fun (place asked : String) (m : Meaning) =>
    (refuse ("type.__new__() argument " ++ place ++ " must be " ++ asked ++ ", not " ++
      m.typeName) : Result Meaning)
  match name.text?, bases, content with
  | none, _, _ => argument "1" "str" name
  | some s, .tuple parents, .collection .dictionary .. =>
    if s.contains (Char.ofNat 0) then .error (.invalid "type name must not contain null characters")
    else
      let classes := parents.filterMap fun m => match m with
        | .named c => some c
        | _ => none
      if classes.length < parents.length then
        refuse (if parents.any fun m => (m matches .union ..) || (m matches .applied ..) ||
            (m matches .annotated ..) || (m matches .form _) then
            "type() doesn't support MRO entry resolution; use types.new_class()"
          else "metaclass conflict: the metaclass of a derived class must be a (non-strict) " ++
            "subclass of the metaclasses of all its bases")
      else
        match classes.find? isFinal, classes.find? (·.make = .enumeration) with
        | some c, _ => refuse ("type '" ++ c.ownName ++ "' is not an acceptable base type")
        | none, some _ => .error (.noAttribute "dict" "_member_names")
        | none, none =>
          if haveLayoutConflict classes then
            refuse "multiple bases have instance lay-out conflict"
          else
            match repeatedClass? classes with
            | some c => refuse ("duplicate base class " ++ c.ownName)
            | none =>
              if areMisordered classes then
                refuse ("Cannot create a consistent method resolution\norder (MRO) for bases " ++
                  ", ".intercalate (classes.map (·.ownName)))
              else .ok (.named (derivedClass s classes))
  | some _, .tuple _, _ => argument "3" "dict" content
  | some _, _, _ => argument "2" "tuple" bases

/-- The class of a meaning, or one that is made of the arguments of a call. -/
def makeType (a : Arguments) : Result Meaning :=
  match a.plain, a.named with
  | [m], [] => .ok (.named (classOf m))
  | [name, bases, content], named =>
    (makeClass name bases content).bind fun c =>
      if named.isEmpty then .ok c
      else refuse ((name.text?.getD "") ++ ".__init_subclass__() takes no keyword arguments")
  | _, _ => refuse "type() takes 1 or 3 arguments"

/-! ### Values of other classes -/

/-- Functions that an abstract class leaves open. -/
def abstractNames : String → List String
  | "Real" => words ("__abs__ __add__ __ceil__ __eq__ __float__ __floor__ __floordiv__ __le__ " ++
      "__lt__ __mod__ __mul__ __neg__ __pos__ __pow__ __radd__ __rfloordiv__ __rmod__ __rmul__ " ++
      "__round__ __rpow__ __rtruediv__ __truediv__ __trunc__")
  | "Integral" => words ("__abs__ __add__ __and__ __ceil__ __eq__ __floor__ __floordiv__ " ++
      "__int__ __invert__ __le__ __lshift__ __lt__ __mod__ __mul__ __neg__ __or__ __pos__ " ++
      "__pow__ __radd__ __rand__ __rfloordiv__ __rlshift__ __rmod__ __rmul__ __ror__ __round__ " ++
      "__rpow__ __rrshift__ __rshift__ __rtruediv__ __rxor__ __truediv__ __trunc__ __xor__")
  | _ => []

/-- A quantity, made of the arguments of a call. -/
def makeQuantity (c : KnownClass) (a : Arguments) : Result Meaning :=
  match a.plain, a.named with
  | [m], [] =>
    (displayText m).map fun shown =>
      let size := match toFloat m with
        | .ok (.float x) => some x
        | _ => none
      .value (.quantity (c.name ++ "(" ++ shown ++ ")") size)
  | _, _ => .ok someObject

/-- A member of an enumeration by its value; no value is known to be that of one. -/
def memberOf (c : KnownClass) (a : Arguments) : Result Meaning :=
  match a.plain with
  | [] => refuse "EnumType.__call__() missing 1 required positional argument: 'value'"
  | m :: _ =>
    (shownText m).bind fun shown => .error (.invalid (shown ++ " is not a valid " ++ c.name))

/-- A value of a class of which no more is known. -/
def plainValue (c : KnownClass) (a : Arguments) : Result Meaning :=
  let missing := if c.module = "numbers" then abstractNames c.name else []
  let cannotBeMade := words "builtin_function_or_method generator method-wrapper " ++
    words "method_descriptor wrapper_descriptor dict_keys dict_values dict_items"
  if c.make = .universal then refuse (c.name ++ " cannot be instantiated")
  else if c = annotatedClass then refuse "Type Annotated cannot be instantiated."
  else if !missing.isEmpty then
    refuse ("Can't instantiate abstract class " ++ c.name ++ " with abstract methods " ++
      ", ".intercalate missing)
  else if c.make = .enumeration then memberOf c a
  else if c.make = .ordinary && !c.countsAs.isEmpty && c.parents.isEmpty then makeQuantity c a
  else if isErrorClass c then makeError c a
  else if c.make = .native && cannotBeMade.contains c.name then
    refuse ("cannot create '" ++ c.path ++ "' instances")
  else if (c.ownName = "NoneType" || c = objectClass) && c.module = "" then
    if a.plain.isEmpty && a.named.isEmpty then
      .ok (if c = objectClass then someObject else .absent)
    else refuse (c.ownName ++ (if c = objectClass then "()" else "") ++ " takes no arguments")
  else if c.make = .derived && c.parents.isEmpty && !(a.plain.isEmpty && a.named.isEmpty) then
    refuse (c.name ++ "() takes no arguments")
  else .ok (.made c a.plain)

/-- A value of a class of a name that is known everywhere, if more than its type is known. -/
def nativeValue? (path : String) (a : Arguments) : Option (Result Meaning) :=
  match path with
  | "type" => some (makeType a)
  | "int" => some (makeInteger a)
  | "float" => some (makeFloat a)
  | "complex" => some (makeComplex a)
  | "str" => some (makeText a)
  | "bytes" => some ((bytesMade "bytes" a).map .bytes)
  | "bytearray" =>
    some ((bytesMade "bytearray" a).map fun content => .made (.everyday path) [.bytes content])
  | "memoryview" =>
    some ((Signature.settle (.parameters ["object"] 1 1) path path a).bind fun found =>
      match found with
      | [some (.bytes content)] => .ok (.made (.everyday path) [.bytes content])
      | [some m] =>
        if m.typeName = "bytearray" then .ok (.made (.everyday path) [m])
        else refuse ("memoryview: a bytes-like object is required, not '" ++ m.typeName ++ "'")
      | _ => .ok someObject)
  | "classmethod" | "staticmethod" =>
    some ((Signature.settle (.between 1 1) path path a).map fun found =>
      .made (.everyday path) (found.filterMap id))
  | "super" =>
    some (if a.plain.isEmpty && a.named.isEmpty then
        .error (.issue .runtime "super(): no arguments")
      else .ok (.made (.everyday path) a.plain))
  | "ellipsis" | "NotImplementedType" =>
    let shown := if path = "ellipsis" then "Ellipsis" else "NotImplemented"
    some (if a.plain.isEmpty && a.named.isEmpty then .ok (shownValue path shown)
      else refuse ((if path = "ellipsis" then "EllipsisType" else path) ++ " takes no arguments"))
  | "function" =>
    some ((Signature.settle (.parameters (words "code globals name argdefs closure") 2 5) path path
      a).bind fun found => match found with
      | some m :: _ => refuse ("function() argument 'code' must be code, not " ++ m.typeName)
      | _ => .ok someObject)
  | "bool" =>
    some ((Signature.settle (.between 0 1) "bool" "bool" a).map fun found =>
      .truth (found.head?.join.any Meaning.isTruthy))
  | "decimal.Decimal" => some (makeDecimal a)
  | "fractions.Fraction" => some (makeRatio a)
  | "datetime.date" => some (makeDate a)
  | "datetime.time" => some (makeTime a)
  | "datetime.datetime" => some (makeDateTime a)
  | "datetime.timedelta" => some (makeDuration a)
  | "dict" => some ((updated [] "dict" a).map .dictionary)
  | "range" => some (makeRange a)
  | "slice" =>
    some ((Signature.settle (.between 1 3) "slice" "slice" a).map fun found =>
      match found with
      | [some stop, none, _] => .slice .absent stop .absent
      | [some start, some stop, step] => .slice start stop (step.getD .absent)
      | _ => .absent)
  | "enumerate" => some (makeNumbered a)
  | "reversed" => some (makeReversed a)
  | "zip" => some (makeZipped a)
  | "map" => some (makeMapped a)
  | "filter" => some (makeFiltered a)
  | name =>
    if (collectionOf? name []).isNone then none
    else
      some ((Signature.settle (.between 0 1) name name a).bind fun found =>
        match found with
        | [some m] => (itemsOf m).bind fun items => (collectionOf? name items).getD (.ok someObject)
        | _ => (collectionOf? name []).getD (.ok someObject))

/-- A value of a class, made from arguments. -/
def makeOf (c : KnownClass) (a : Arguments) : Result Meaning :=
  let base := if c.make = .derived then c.parents.head?.map classOfName else none
  match nativeValue? (base.getD c).path a with
  | some result => result
  | none => plainValue c a

end SheetExport.Annotation
