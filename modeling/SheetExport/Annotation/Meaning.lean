/-
**What the expressions of annotations stand for.**

A `Meaning` is a value, a collection, a class, a form that still takes types, a type made of others,
a text that stands for a type of its own, or something that can be called. What can change has a
place, by which it is told from others that are equal to it. Two meanings are compared by
`Meaning.same`, where the members of unions and of sets have no order and numbers are equal across
their kinds; `Meaning.typeName` is the name of the type of a meaning.
-/

import SheetExport.Annotation.Classes
import SheetExport.Annotation.Expression
import SheetExport.Value.Numeric

namespace SheetExport.Annotation

/-- Forms that take types and are none themselves. -/
inductive Form
  | optional | union
deriving Repr, DecidableEq

/-- The text of a form. -/
def Form.shown : Form → String
  | optional => "typing.Optional"
  | union => "typing.Union"

/-- What is seen of a dictionary. -/
inductive View
  | keys | values | pairs
deriving Repr, DecidableEq

/-- The name of the type of a view. -/
def View.type : View → String
  | keys => "dict_keys"
  | values => "dict_values"
  | pairs => "dict_items"

/-- What an expression stands for. -/
inductive Meaning
  | value (v : Value)
  | bytes (content : List UInt8)
  | tuple (items : List Meaning)
  /-- A tuple whose items have names: the name of its type, and those of the items. -/
  | labelled (type : String) (names : List String) (items : List Meaning)
  /-- A collection at a place; that of a dictionary has keys and values by turns. -/
  | collection (kind : Collection) (place : Nat) (items : List Meaning)
  /-- A set that does not change. -/
  | frozen (items : List Meaning)
  /-- Integers a step apart, up to before one. -/
  | range (start stop step : Int)
  /-- A range of indices. -/
  | slice (start stop step : Meaning)
  /-- A view of a dictionary at a place, with its keys and values by turns. -/
  | view (kind : View) (place : Nat) (items : List Meaning)
  /-- Items that are taken one after the other, from a place: the name of their type. -/
  | stream (type : String) (place : Nat) (items : List Meaning)
  /-- What is worked out item by item at a place: the name of its type, its own name, what its items
  come from, the loop that gives them with the names known to it and their places, and what is left
  of the item before. -/
  | generator (type : String) (place : Nat) (title : String) (source : Meaning) (target : Target)
      (body : Expression) (names : List String) (places : List Nat) (pending : List Meaning)
  | named (c : KnownClass)
  /-- A value of a class, with what it was made of. -/
  | made (c : KnownClass) (arguments : List Meaning)
  | form (f : Form)
  /-- A module of a name. -/
  | module (name : String)
  /-- A text that stands for a type. -/
  | reference (text : String)
  /-- A union of types; it is plain if all its members are classes, or lists of something. -/
  | union (isPlain : Bool) (members : List Meaning)
  | annotated (inner : Meaning) (notes : List Meaning)
  /-- A class of collections with what it is applied to. -/
  | applied (origin : KnownClass) (arguments : List Meaning)
  /-- A function that an expression makes, by what messages call it, with the values of its
  parameters that are given and the names known to it with their places. -/
  | function (title : String) (parameters : List Parameter) (defaults : List Meaning)
      (body : Expression) (names : List String) (places : List Nat)
  /-- A function known everywhere. -/
  | routine (name : String)
  /-- A function of a value, or of a class. -/
  | method (owner : Meaning) (name : String)
  /-- A function of the values of a class. -/
  | descriptor (c : KnownClass) (name : String)
  /-- Another value: the name of its type, its text, and whether it can be told from others in a
  set. -/
  | other (type shown : String) (isHashable : Bool)
deriving Inhabited

namespace Meaning

/-! ### Values -/

/-- The absent value. -/
@[match_pattern] abbrev absent : Meaning := value .null

/-- A truth value. -/
@[match_pattern] abbrev truth (b : Bool) : Meaning := value (.bool b)

/-- An integer. -/
@[match_pattern] abbrev integer (n : Int) : Meaning := value (.int n)

/-- A float. -/
@[match_pattern] abbrev float (x : Float) : Meaning := value (.float x)

/-- A text. -/
@[match_pattern] abbrev text (s : String) : Meaning := value (.text s)

/-- The text of the given characters. -/
def ofChars (cs : List Char) : Meaning := text (String.ofList cs)

/-- A natural number. -/
def natural (n : Nat) : Meaning := integer n

/-- A list that has no place yet. -/
def list (items : List Meaning) : Meaning := collection .list 0 items

/-- A set that has no place yet. -/
def set (items : List Meaning) : Meaning := collection .set 0 items

/-- A dictionary that has no place yet, of keys and values by turns. -/
def dictionary (items : List Meaning) : Meaning := collection .dictionary 0 items

/-- What is worked out item by item from a source and has no place yet: a class does so. -/
def lazily (type : String) (source : Meaning) (pending : List Meaning) : Meaning :=
  generator type 0 type source (.several []) (.tuple []) [] [] pending

/-- What a constant stands for. -/
def ofConstant : Constant → Meaning
  | .value v => value v
  | .bytes content => bytes content
  | .ellipsis => other "ellipsis" "Ellipsis" true

/-- The value that a meaning is. -/
def value? : Meaning → Option Value
  | value v => some v
  | _ => none

/-- The number that a meaning is. -/
def number? (m : Meaning) : Option Numeric := m.value?.bind Numeric.ofValue?

/-- The text that a meaning is. -/
def text? (m : Meaning) : Option String := m.value?.bind Value.textual?

/-- The integer that a meaning is. -/
def integer? (m : Meaning) : Option Int :=
  match m.number? with
  | some (.whole n) => some n
  | _ => none

/-! ### Types of meanings -/

/-- The name of the type of a collection. -/
def collectionType : Collection → String
  | .list => "list"
  | .set => "set"
  | .dictionary => "dict"

/-- The type of functions known everywhere, and of most functions of values. -/
def routineType : String := "builtin_function_or_method"

/-- Functions of values between low lines that are no operators of their types. -/
def ordinaryNames : List String :=
  words ("__reduce__ __reduce_ex__ __format__ __sizeof__ __dir__ __getstate__ __getnewargs__ " ++
    "__init_subclass__ __subclasshook__ __class_getitem__ __new__ __round__ __trunc__ __floor__ " ++
    "__ceil__ __bytes__ __complex__ __copy__ __deepcopy__ __prepare__ __instancecheck__ " ++
    "__subclasscheck__ __subclasses__ __getformat__ __reversed__ __length_hint__ __setstate__")

/-- A function of values of a type that is an operator of the type. -/
def isOperator (type name : String) : Bool :=
  name.startsWith "__" && !ordinaryNames.contains name &&
    !(name = "__contains__" && ["dict", "set", "frozenset"].contains type) &&
    !(name = "__getitem__" && ["dict", "list"].contains type)

/-- The name of the type of a meaning. -/
def typeName : Meaning → String
  | value v => v.typePath
  | bytes _ => "bytes"
  | tuple _ => "tuple"
  | labelled type .. => type
  | collection kind .. => collectionType kind
  | frozen _ => "frozenset"
  | range .. => "range"
  | slice .. => "slice"
  | view kind .. => kind.type
  | stream type .. | generator type .. | other type .. => type
  | named c => c.metaclass
  | made c _ => c.messageName
  | form _ => "_SpecialForm"
  | module _ => "module"
  | reference _ => "ForwardRef"
  | union true _ => "types.UnionType"
  | union false _ => "_UnionGenericAlias"
  | annotated .. => "_AnnotatedAlias"
  | applied .. => "types.GenericAlias"
  | function .. => "function"
  | routine _ => routineType
  | method (named _) _ => routineType
  | method owner name =>
    if owner.typeName = "Fraction" then "method"
    else if isOperator owner.typeName name then "method-wrapper"
    else routineType
  | descriptor c name =>
    if c.name = "Fraction" then "function"
    else if isOperator c.name name then "wrapper_descriptor"
    else "method_descriptor"

/-- How many integers a range has. -/
def rangeLength (start stop step : Int) : Nat :=
  if 0 < step then ((stop - start + step - 1).fdiv step).toNat
  else ((start - stop - step - 1).fdiv (-step)).toNat

/-- Counts as true. -/
def isTruthy : Meaning → Bool
  | value v => v.isTruthy
  | bytes content => !content.isEmpty
  | tuple items | labelled _ _ items | collection _ _ items | frozen items | view _ _ items =>
    !items.isEmpty
  | range start stop step => rangeLength start stop step ≠ 0
  | _ => true

/-! ### Items of dictionaries -/

/-- The keys among keys and values that come by turns. -/
def keysOf : List Meaning → List Meaning
  | k :: _ :: rest => k :: keysOf rest
  | short => short

/-- The values among keys and values that come by turns. -/
def valuesOf : List Meaning → List Meaning
  | _ :: v :: rest => v :: valuesOf rest
  | _ => []

/-- Keys with their values, among keys and values that come by turns. -/
def pairsOf : List Meaning → List Meaning
  | k :: v :: rest => tuple [k, v] :: pairsOf rest
  | _ => []

/-- What a view shows of keys and values that come by turns. -/
def viewed (kind : View) (items : List Meaning) : List Meaning :=
  match kind with
  | .keys => keysOf items
  | .values => valuesOf items
  | .pairs => pairsOf items

/-! ### Comparison -/

/-- One of keys and values that come by turns fits. -/
def hasPair (isKey isValue : Meaning → Bool) : List Meaning → Bool
  | k :: v :: rest => (isKey k && isValue v) || hasPair isKey isValue rest
  | _ => false

/-- A tuple of two items that fit is among given meanings. -/
def hasTuple (isFirst isSecond : Meaning → Bool) : List Meaning → Bool
  | tuple [a, b] :: rest => (isFirst a && isSecond b) || hasTuple isFirst isSecond rest
  | _ :: rest => hasTuple isFirst isSecond rest
  | [] => false

/-- Equality of ranges: they have the same integers. -/
def sameRange (start stop step start' stop' step' : Int) : Bool :=
  let length := rangeLength start stop step
  length = rangeLength start' stop' step' &&
    (length = 0 || (start = start' && (length = 1 || step = step')))

mutual

/-- Equality of meanings. -/
def same : Meaning → Meaning → Bool
  | value v, b => match b with
    | value w => v.same w
    | _ => false
  | bytes content, b => match b with
    | bytes content' => content = content'
    | _ => false
  | tuple items, b | labelled _ _ items, b => match b with
    | tuple items' | labelled _ _ items' => sameAll items items'
    | _ => false
  | collection .set _ items, b | frozen items, b => match b with
    | collection .set _ items' | frozen items' =>
      items.length = items'.length && eachIn items items'
    | view .keys _ items' => 2 * items.length = items'.length && eachIn items (keysOf items')
    | view .pairs _ items' => 2 * items.length = items'.length && eachIn items (pairsOf items')
    | _ => false
  | collection kind _ items, b => match b with
    | collection kind' _ items' =>
      kind = kind' && items.length = items'.length &&
        (if kind = .list then sameAll items items' else eachPairIn items items')
    | _ => false
  | range start stop step, b => match b with
    | range start' stop' step' => sameRange start stop step start' stop' step'
    | _ => false
  | slice start stop step, b => match b with
    | slice start' stop' step' => same start start' && same stop stop' && same step step'
    | _ => false
  | view .keys _ items, b => match b with
    | view .keys _ items' => items.length = items'.length && eachKeyIn items (keysOf items')
    | view .pairs _ items' => items.length = items'.length && eachKeyIn items (pairsOf items')
    | collection .set _ items' | frozen items' =>
      items.length = 2 * items'.length && eachKeyIn items items'
    | _ => false
  | view .pairs _ items, b => match b with
    | view .keys _ items' => items.length = items'.length && eachTupleIn items (keysOf items')
    | view .pairs _ items' => items.length = items'.length && eachPairIn items items'
    | collection .set _ items' | frozen items' =>
      items.length = 2 * items'.length && eachTupleIn items items'
    | _ => false
  | view .values place _, b => match b with
    | view .values place' _ => place = place' && place ≠ 0
    | _ => false
  | stream _ place _, b => match b with
    | stream _ place' _ => place = place' && place ≠ 0
    | _ => false
  | generator _ place .., b => match b with
    | generator _ place' .. => place = place' && place ≠ 0
    | _ => false
  | named c, b => match b with
    | named c' => c = c'
    | _ => false
  | form f, b => match b with
    | form f' => f = f'
    | _ => false
  | module name, b => match b with
    | module name' => name = name'
    | _ => false
  | reference s, b => match b with
    | reference s' => s = s'
    | _ => false
  | union _ members, b => match b with
    | union _ members' => eachIn members members' && members'.all (isAmong members)
    | _ => false
  | annotated inner notes, b => match b with
    | annotated inner' notes' => same inner inner' && sameAll notes notes'
    | _ => false
  | applied c arguments, b => match b with
    | applied c' arguments' => c = c' && sameAll arguments arguments'
    | _ => false
  | made .., _ | function .., _ => false
  | routine name, b => match b with
    | routine name' => name = name'
    | _ => false
  | method owner name, b => match b with
    | method owner' name' => same owner owner' && name = name'
    | _ => false
  | descriptor c name, b => match b with
    | descriptor c' name' => c = c' && name = name'
    | _ => false
  | other type shown _, b => match b with
    | other type' shown' _ => type = type' && shown = shown'
    | _ => false

/-- Equality of meanings one by one. -/
def sameAll : List Meaning → List Meaning → Bool
  | [], [] => true
  | a :: as, b :: bs => same a b && sameAll as bs
  | _, _ => false

/-- Every one of the first meanings is among the second ones. -/
def eachIn : List Meaning → List Meaning → Bool
  | [], _ => true
  | a :: rest, others => others.any (same a) && eachIn rest others

/-- Every one of the first keys and values that come by turns is among the second ones. -/
def eachPairIn : List Meaning → List Meaning → Bool
  | k :: v :: rest, others => hasPair (same k) (same v) others && eachPairIn rest others
  | _, _ => true

/-- Every one of the first keys, which come by turns with their values, is among given meanings. -/
def eachKeyIn : List Meaning → List Meaning → Bool
  | k :: _ :: rest, others => others.any (same k) && eachKeyIn rest others
  | _, _ => true

/-- Every one of the first keys is in a tuple with its value among given meanings. -/
def eachTupleIn : List Meaning → List Meaning → Bool
  | k :: v :: rest, others => hasTuple (same k) (same v) others && eachTupleIn rest others
  | _, _ => true

/-- A meaning is among given ones. -/
def isAmong : List Meaning → Meaning → Bool
  | [], _ => false
  | a :: rest, b => same a b || isAmong rest b

end

mutual

/-- The type of the first part of a meaning that cannot be in a set. -/
def unhashable? : Meaning → Option String
  | tuple items | labelled _ _ items => unhashableIn? items
  | union _ members => unhashableIn? members
  | annotated inner notes =>
    match unhashable? inner with
    | some type => some type
    | none => unhashableIn? notes
  | applied _ arguments => unhashableIn? arguments
  | collection kind .. => some (collectionType kind)
  | view kind .. => if kind = .values then none else some kind.type
  | slice .. => some "slice"
  | other type _ isHashable => if isHashable then none else some type
  | _ => none

/-- The type of the first part of any of the meanings that cannot be in a set. -/
def unhashableIn? : List Meaning → Option String
  | [] => none
  | m :: rest =>
    match unhashable? m with
    | some type => some type
    | none => unhashableIn? rest

end

end Meaning

end SheetExport.Annotation
