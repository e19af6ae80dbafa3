/-
**Functions between low lines.**

Operators, comparisons and conversions are functions of values too. As such they answer with a value
of its own kind where their owner makes nothing of the other operand (`notImplemented`), and do not
ask the other operand instead. `callSpecial?` has all of them, applied to the arguments at the places
of their parameters.
-/

import SheetExport.Annotation.Method.Collection
import SheetExport.Value.Hash

namespace SheetExport.Annotation

/-- What an operator answers with that makes nothing of its operand. -/
def notImplemented : Meaning := shownValue "NotImplementedType" "NotImplemented"

/-! ### Operands -/

/-- Kinds of numbers whose operators take others. -/
def takesNumber (owner other : Numeric) : Bool :=
  match owner, other with
  | .whole _, .whole _ | .float _, .whole _ | .float _, .float _ | .decimal _, .whole _
  | .decimal _, .decimal _ => true
  | .complex _, .decimal _ | .complex _, .ratio _ => false
  | .complex _, _ => true
  | .ratio _, .decimal _ => false
  | .ratio _, _ => true
  | _, _ => false

/-- The operators of a value take another one. -/
def takesValue (owner other : Value) : Bool :=
  match owner, other with
  | .date _, .date _ | .date _, .duration _ | .dateTime _, .dateTime _
  | .dateTime _, .duration _ => true
  | .duration _, .duration _ => true
  | .duration _, other =>
    match Numeric.ofValue? other with
    | some (.whole _) | some (.float _) => true
    | _ => false
  | owner, other =>
    match Numeric.ofValue? owner, Numeric.ofValue? other with
    | some a, some b => takesNumber a b
    | _, _ => false

/-- The operators of a meaning take another one. -/
def takesOperand (owner other : Meaning) : Bool :=
  match owner, other, owner.text?, other.text? with
  | _, _, some _, _ => true
  | .value v, .value w, none, _ => takesValue v w
  | .collection .dictionary .., .collection .dictionary .., _, _ => true
  | .collection .dictionary .., _, _, _ => false
  | .collection .set .., other, _, _ | .frozen _, other, _, _ => (setMembers? other).isSome
  | .named _, other, _, _ | .union true _, other, _, _ | .applied .., other, _, _ => isPlain other
  | .value .., _, _, _ => false
  | _, _, _, _ => true

/-! ### Operators -/

/-- Operators by the names of the functions that they are. -/
def operatorNames : List (String × String) := [("add", "+"), ("sub", "-"), ("mul", "*"),
  ("truediv", "/"), ("floordiv", "//"), ("mod", "%"), ("pow", "**"), ("lshift", "<<"),
  ("rshift", ">>"), ("and", "&"), ("or", "|"), ("xor", "^"), ("matmul", "@")]

/-- The name of a function without its low lines. -/
def withoutLines (name : String) : String :=
  String.ofList ((name.toList.drop 2).take (name.length - 4))

/-- The operator of a function, and whether its owner is the second operand. -/
def operatorOf? (name : String) : Option (String × Bool) :=
  let inner := withoutLines name
  match operatorNames.lookup inner with
  | some operator => some (operator, false)
  | none =>
    match inner.toList with
    | 'r' :: rest => (operatorNames.lookup (String.ofList rest)).map (·, true)
    | _ => none

/-- What an operator makes of its owner and another operand. -/
def operateAs (operator : String) (isSecond : Bool) (owner other : Meaning) : Result Meaning :=
  let isSequence := (repeated? owner 0).isSome
  if operator = "*" && isSequence then
    (indexOf other).bind fun n => (repeated? owner n).getD (.ok notImplemented)
  else if operator = "%" && isSecond && owner.text?.isSome && other.text?.isNone then
    .ok notImplemented
  else if takesOperand owner other then
    let result := if isSecond then operate operator other owner else operate operator owner other
    match owner, other, result with
    | .value _, .value _, .error (.misuse (.noOperation ..)) => .ok notImplemented
    | _, _, result => result
  else .ok notImplemented

/-! ### Comparison -/

/-- Values that are compared with each other, for equality or for order. -/
def comparesValue (forOrder : Bool) (owner other : Value) : Bool :=
  match owner, other, owner.textual?, other.textual? with
  | _, _, some _, other => other.isSome
  | .date _, .date _, _, _ | .date _, .dateTime _, _, _ | .dateTime _, .dateTime _, _, _
  | .time _, .time _, _, _ | .duration _, .duration _, _, _ => true
  | owner, other, none, _ =>
    match Numeric.ofValue? owner, Numeric.ofValue? other with
    | some (.complex _), some (.decimal _) | some (.complex _), some (.ratio _) => false
    | some (.complex _), some _ => !forOrder
    | some (.decimal _), some (.complex _) | some (.ratio _), some (.complex _) => !forOrder
    | some (.decimal _), some _ => true
    | some a, some b => takesNumber a b
    | _, _ => false

/-- Meanings that are compared with each other, for equality or for order. -/
def comparesWith (forOrder : Bool) (owner other : Meaning) : Bool :=
  match owner, other with
  | .value v, .value w => comparesValue forOrder v w
  | .bytes _, .bytes _ | .tuple _, .tuple _ | .tuple _, .labelled .. | .labelled .., .tuple _
  | .labelled .., .labelled .. => true
  | .collection .list .., .collection .list .. => true
  | .collection .dictionary .., .collection .dictionary .. => !forOrder
  | .range .., .range .. | .slice .., .slice .. | .union .., .union .. => !forOrder
  | .annotated .., .annotated .. | .applied .., .applied .. => !forOrder
  | _, _ => (setMembers? owner).isSome && (setMembers? other).isSome

/-- The operators of comparison by the names of the functions that they are. -/
def comparisonNames : List (String × String) :=
  [("__lt__", "<"), ("__le__", "<="), ("__gt__", ">"), ("__ge__", ">=")]

/-- What a function of comparison finds. -/
def compareAs? (name : String) (owner other : Meaning) : Option (Result Meaning) :=
  let equal := fun (wanted : Bool) =>
    if comparesWith false owner other || isIdentical owner other then
      some (.ok (.truth (owner.same other = wanted)))
    else some (.ok notImplemented)
  match name, comparisonNames.lookup name with
  | "__eq__", _ => equal true
  | "__ne__", _ => equal false
  | _, some operator =>
    let asDate := match owner, other with
      | .value (.date _), .value (.dateTime d) => .value (.date d.date)
      | _, other => other
    some (if comparesWith true owner other then (order operator owner asDate).map .truth
      else .ok notImplemented)
  | _, none => none

/-! ### Conversions -/

/-- Nothing is rounded that is none of the numbers that can be. -/
def notRounded (m : Meaning) : Result Meaning :=
  refuse ("type " ++ m.typeName ++ " doesn't define __round__ method")

/-- A decimal rounded to places. -/
def roundDecimal (d : Decimal) (places : Option Meaning) : Result Meaning :=
  match places with
  | none =>
    match d.toInteger? .halfEven with
    | some n => .ok (.integer n)
    | none =>
      if d.isUndefined then .error (.invalid "cannot round a NaN")
      else .error (.issue .overflow "cannot round an infinity")
  | some m =>
    match m.integer? with
    | some n =>
      (ofValues ((Decimal.quantize .halfEven d (.finite false 1 (-n))).mapError
        Fault.signalled)).map fun d => .value (.decimal d)
    | none => refuse "optional arg must be an integer"

/-- A ratio rounded to places. -/
def roundRatio (q : Rat) (places : Option Meaning) : Result Meaning :=
  match places with
  | none => .ok (.integer (Numeric.nearestInteger q))
  | some m =>
    match m.integer? with
    | some n => .ok (.value (.ratio (Numeric.toPlaces q n)))
    | none => refuse ("bad operand type for abs(): '" ++ m.typeName ++ "'")

/-- A number rounded to an integer, or to places. -/
def roundTo (m : Meaning) (given : Option Meaning) : Result Meaning :=
  let places := given.filter fun m => !(m matches .absent)
  match m.number?, places with
  | some (.whole n), none => .ok (.integer n)
  | some (.whole n), some p =>
    (indexOf p).map fun places =>
      .integer (if 0 ≤ places then n else (Numeric.toPlaces n places).num)
  | some (.float x), none =>
    (ofValues (Numeric.float x).truncated).map fun n =>
      .integer (((exactValue? x).map Numeric.nearestInteger).getD n)
  | some (.float x), some p =>
    (indexOf p).bind fun places => (ofValues (Numeric.roundedFloat x places)).map .float
  | some (.decimal d), places => roundDecimal d places
  | some (.ratio q), places => roundRatio q places
  | _, _ => notRounded m

/-- A number without its sign. -/
def magnitudeOf (m : Meaning) : Result Meaning :=
  match m, m.number? with
  | _, some n => (ofValues n.magnitude).map fun n => .value n.toValue
  | .value (.duration d), none =>
    (ofValues (Value.durationOf d.microseconds.natAbs)).map .value
  | _, none => refuse ("bad operand type for abs(): '" ++ m.typeName ++ "'")

/-- The integer below or above a number. -/
def integerBeside (above : Bool) (m : Meaning) : Result Meaning :=
  let ofRatio := fun q : Rat => Meaning.integer (if above then q.ceil else q.floor)
  match m.number? with
  | some (.whole n) => .ok (.integer n)
  | some (.ratio q) => .ok (ofRatio q)
  | some (.float x) =>
    (ofValues (Numeric.float x).truncated).map fun n => ((exactValue? x).map ofRatio).getD
      (.integer n)
  | some (.decimal d) =>
    (ofValues (Numeric.decimal d).truncated).map fun n => (d.value?.map ofRatio).getD (.integer n)
  | _ => refuse ("must be real number, not " ++ m.typeName)

/-! ### Items -/

/-- Keys that only tell values apart. -/
def someKey (of : String) : Meaning := shownValue "int" ("<" ++ of ++ ">")

/-- The key of a meaning by which it is found in a set. -/
def hashOf (m : Meaning) : Result Meaning :=
  match m.unhashable?, m.key? with
  | some type, _ => misused (.unhashable type)
  | none, some n => .ok (.integer n)
  | none, none => .ok (someKey ((m.shown.toOption).getD ""))

/-- How many items a meaning has. -/
def lengthOf (m : Meaning) : Result Meaning :=
  match m, sizeOf? m with
  | .named c, _ =>
    if c.make = .enumeration then .ok (someKey c.name)
    else refuse ("object of type '" ++ m.typeName ++ "' has no len()")
  | _, some n =>
    if greatestIndex < n then
      .error (.issue .overflow "Python int too large to convert to C ssize_t")
    else .ok (.natural n)
  | _, none => refuse ("object of type '" ++ m.typeName ++ "' has no len()")

/-- What changes under an index of a list or a key of a dictionary. -/
def replaceItem (owner index : Meaning) (m : Option Meaning) : Result Outcome :=
  let deleted := m.isNone
  match owner, index.integer? with
  | .collection .list _ items, some n =>
    match itemAt? items n with
    | none => .error (.emptied "list assignment index out of range")
    | some _ =>
      let place := (if n < 0 then n + items.length else n).toNat
      .ok (.change (match m with
        | some m => items.set place m
        | none => items.eraseIdx place))
  | .collection .dictionary _ items, _ =>
    (checkHashable [index]).bind fun _ =>
      match m with
      | some m => .ok (.change (putPair index m items))
      | none =>
        if (lookUp? index items).isSome then .ok (.change (withoutKey index items))
        else (shownText index).bind fun shown => .error (.noKey shown)
  | .collection .list _ items, none =>
    match index with
    | .slice start stop step =>
      (rangeAmong items.length start stop step).bind fun (first, last, _) =>
        (m.elim (.ok []) itemsOf).map fun more =>
          .change (items.take first.toNat ++ more ++ items.drop (max first last).toNat)
    | _ => misused (.sequenceIndex "list" index.typeName)
  | _, _ =>
    refuse ("'" ++ owner.typeName ++ "' object does not support item " ++
      (if deleted then "deletion" else "assignment"))

/-- What an operator that changes its owner makes of it. -/
def operateInPlace (operator : String) (owner other : Meaning) : Result Outcome :=
  let kept := fun contents : List Meaning => Outcome.mk owner (some contents)
  match owner, operator with
  | .collection .list _ items, "+" => (itemsOf other).map fun more => kept (items ++ more)
  | .collection .list _ items, "*" =>
    (indexOf other).bind fun n => (repeatItems items n).map kept
  | .collection .dictionary _ items, "|" =>
    (pairItems other).map fun more => kept (putPairs items more)
  | .collection .set _ members, operator =>
    match setMembers? other with
    | some others => .ok (kept ((combineSets? operator members others).getD members))
    | none => .ok ⟨notImplemented, none⟩
  | _, _ => .ok ⟨notImplemented, none⟩

/-! ### All of them -/

/-- Names that a meaning can be asked for, in order. -/
def askableNames (m : Meaning) : List Meaning :=
  let names := (objectNames ++ namesOfType (classOf m).name).mergeSort (· ≤ ·)
  names.eraseDups.map .text

/-- The result of a function between low lines that has no argument. -/
def callAlone? (owner : Meaning) (name : String) : Option (Result Meaning) :=
  match name with
  | "__neg__" => some (signed "-" owner)
  | "__pos__" => some (signed "+" owner)
  | "__invert__" => some (signed "~" owner)
  | "__abs__" => some (magnitudeOf owner)
  | "__bool__" => some (.ok (.truth owner.isTruthy))
  | "__int__" | "__trunc__" => some (toInteger owner)
  | "__index__" => some ((indexOf owner).map .integer)
  | "__float__" => some (toFloat owner)
  | "__complex__" => some (makeComplex ⟨[owner], []⟩)
  | "__floor__" => some (integerBeside false owner)
  | "__ceil__" => some (integerBeside true owner)
  | "__len__" => some (lengthOf owner)
  | "__iter__" => some (iterator owner)
  | "__reversed__" => some (makeReversed ⟨[owner], []⟩)
  | "__repr__" => some ((shownText owner).map .text)
  | "__str__" => some ((displayText owner).map .text)
  | "__hash__" => some (hashOf owner)
  | "__sizeof__" => some (.ok (someKey "__sizeof__"))
  | "__dir__" => some (.ok (.list (askableNames owner)))
  | "__copy__" | "__bytes__" => some (.ok owner)
  | "__getnewargs__" =>
    some (.ok (.tuple [match owner with
      | .labelled _ _ items => .tuple items
      | m => m]))
  | _ => none

/-- What a value has under the name that an argument gives. -/
def askFor (m name : Meaning) : Result Meaning :=
  match name.text? with
  | some s => attributeOf s m
  | none => refuse ("attribute name must be string, not '" ++ name.typeName ++ "'")

/-- The result of a function between low lines that has one argument. -/
def callWithOne? (owner : Meaning) (name : String) (m : Meaning) : Option (Result Meaning) :=
  match compareAs? name owner m, operatorOf? name with
  | some result, _ => some result
  | none, some (operator, isSecond) => some (operateAs operator isSecond owner m)
  | none, none =>
    match name with
    | "__contains__" => some ((isIn m owner).map .truth)
    | "__getitem__" => some (subscript owner m)
    | "__format__" =>
      some (match m.text? with
        | some s => (layOut s owner).map .text
        | none => refuse ("__format__() argument must be str, not " ++ m.typeName))
    | "__getattribute__" => some (askFor owner m)
    | "__delattr__" =>
      some ((askFor owner m).bind fun _ =>
        .error (.noAttribute owner.typeName (m.text?.getD "")))
    | "__divmod__" =>
      some (if takesOperand owner m then divide owner m else .ok notImplemented)
    | "__rdivmod__" =>
      some (if takesOperand owner m then divide m owner else .ok notImplemented)
    | _ => none

/-- The result of a function between low lines. -/
def callSpecial? (owner : Meaning) (name : String) (found : List (Option Meaning)) :
    Option (Result Outcome) :=
  let inPlace := match (withoutLines name).toList with
    | 'i' :: rest => operatorNames.lookup (String.ofList rest)
    | _ => none
  match name, found, owner with
  | "__next__", _, .stream _ _ items =>
    some (match items with
      | m :: rest => .ok ⟨m, some rest⟩
      | [] => .error .exhausted)
  | "__setitem__", [some index, m], _ => some (replaceItem owner index m)
  | "__delitem__", [some index], _ => some (replaceItem owner index none)
  | "__setattr__", [some m, _], _ | "__delattr__", [some m], _ =>
    some (.error (.noAttribute owner.typeName (m.text?.getD "")))
  | "__init__", _, _ => some (.ok ⟨.absent, none⟩)
  | "__round__", [places], _ => some (unchanged (roundTo owner places))
  | "__pow__", [some m, some modulus], _ =>
    if modulus matches .absent then some (unchanged (operateAs "**" false owner m))
    else some (unchanged (raise owner m modulus))
  | _, some m :: _, _ =>
    match inPlace with
    | some operator => some (operateInPlace operator owner m)
    | none => (callWithOne? owner name m).map unchanged
  | _, _, _ => (callAlone? owner name).map unchanged

end SheetExport.Annotation
