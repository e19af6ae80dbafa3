/-
**Items, and how they are picked out.**

Texts, tuples, collections and other sequences have items. One is picked by an index, which counts
from the end if it is negative, several by a range of indices, and what a dictionary has for a key
by the key. `subscript` also applies forms and classes of collections to types.
-/

import SheetExport.Annotation.Scope
import SheetExport.Annotation.Typing

namespace SheetExport.Annotation

open Meaning (keysOf viewed rangeLength)

/-! ### Items -/

/-- The items of a text. -/
def lettersOf (s : String) : List Meaning := s.toList.map fun c => .text (String.singleton c)

/-- The most items of a range that are worked out. -/
def maxRange : Nat := 1000000

/-- So many integers from the first one on, a step apart. -/
def stepsFrom (first step : Int) (count : Nat) : List Int :=
  (List.range count).map fun k : Nat => first + k * step

/-- The integers of a range. -/
def rangeItems (start stop step : Int) : List Meaning :=
  (stepsFrom start step (min maxRange (rangeLength start stop step))).map .integer

/-- The items of a meaning, if it has any. -/
def itemsOf? (m : Meaning) : Option (List Meaning) :=
  match m, m.text? with
  | _, some s => some (lettersOf s)
  | .bytes content, _ => some (content.map fun b => .natural b.toNat)
  | .tuple items, _ | .labelled _ _ items, _ | .collection .list _ items, _
  | .collection .set _ items, _ | .frozen items, _ | .stream _ _ items, _ => some items
  | .collection .dictionary _ items, _ => some (keysOf items)
  | .view kind _ items, _ => some (viewed kind items)
  | .range start stop step, _ => some (rangeItems start stop step)
  | .made c [.bytes content], _ =>
    if c.name = "bytearray" || c.name = "memoryview" then
      some (content.map fun b => .natural b.toNat)
    else none
  | .applied .., _ => some [shownValue m.typeName ("*" ++ m.shown.toOption.getD "")]
  | _, _ => none

/-- The items of a meaning that is gone through. -/
def itemsOf (m : Meaning) : Result (List Meaning) :=
  match itemsOf? m with
  | some items => .ok items
  | none => misused (.notIterable m.typeName)

/-- A type made of others that says of itself that it has no items. -/
def refusesItems : Meaning → Bool
  | .union false _ | .annotated .. => true
  | _ => false

/-- The items of a meaning that is spread among others. -/
def spreadItems (m : Meaning) : Result (List Meaning) :=
  match itemsOf? m with
  | some items => .ok items
  | none =>
    misused (if refusesItems m then .notIterable m.typeName else .noItems m.typeName)

/-- The type of what gives the items of a meaning one after the other. -/
def iteratorType (m : Meaning) : String :=
  match m, m.text? with
  | _, some s => if s.toList.all (·.toNat < 128) then "str_ascii_iterator" else "str_iterator"
  | .bytes _, _ => "bytes_iterator"
  | .tuple _, _ | .labelled .., _ => "tuple_iterator"
  | .collection .list .., _ => "list_iterator"
  | .collection .dictionary .., _ | .view .keys .., _ => "dict_keyiterator"
  | .view .values .., _ => "dict_valueiterator"
  | .view .pairs .., _ => "dict_itemiterator"
  | .collection .set .., _ | .frozen _, _ => "set_iterator"
  | .range .., _ => "range_iterator"
  | _, _ => "generator"

/-- What gives the items of a meaning one after the other. -/
def iterator (m : Meaning) : Result Meaning :=
  match m with
  | .stream .. | .generator .. => .ok m
  | m => (itemsOf m).map (.stream (iteratorType m) 0)

/-- How many items a meaning has, if that is known of values of its type. -/
def sizeOf? (m : Meaning) : Option Nat :=
  match m with
  | .range start stop step => some (rangeLength start stop step)
  | .stream .. | .generator .. | .applied .. => none
  | _ => (itemsOf? m).map List.length

/-! ### Collections -/

/-- What belongs to a key, among keys and values that come by turns. -/
def lookUp? (key : Meaning) : List Meaning → Option Meaning
  | k :: value :: rest => if key.same k then some value else lookUp? key rest
  | _ => none

/-- Keys and values that come by turns, with a value for a key. -/
def putPair (key value : Meaning) : List Meaning → List Meaning
  | k :: v :: rest => if key.same k then k :: value :: rest else k :: v :: putPair key value rest
  | _ => [key, value]

/-- Keys and values that come by turns after others, each key once and with its last value. -/
def putPairs (earlier items : List Meaning) : List Meaning :=
  ((Meaning.PairTable.putAll {} earlier).putAll items).toList

/-- Keys and values that come by turns, without a key. -/
def withoutKey (key : Meaning) : List Meaning → List Meaning
  | k :: v :: rest => if key.same k then rest else k :: v :: withoutKey key rest
  | _ => []

/-- The class of dictionaries, which has keys only of a dictionary. -/
def hasKeys : Meaning → Bool
  | .named c | .applied c _ => c.path = "dict"
  | _ => false

/-- How the keys of the class of dictionaries are refused. -/
def keysUnbound : String := "unbound method dict.keys() needs an argument"

/-- Refuses what cannot be in a set. -/
def checkHashable (items : List Meaning) : Result Unit :=
  match Meaning.unhashableIn? items with
  | some type => misused (.unhashable type)
  | none => .ok ()

/-- A set of items, without a place. -/
def collectSet (items : List Meaning) : Result Meaning :=
  (checkHashable items).map fun _ => .set (Meaning.membersOf items)

/-- A collection of items, without a place. What tells its members apart has to be hashable. -/
def collect (kind : Collection) (items : List Meaning) : Result Meaning :=
  match kind with
  | .list => .ok (.list items)
  | .set => collectSet items
  | .dictionary => (checkHashable (keysOf items)).map fun _ => .dictionary (putPairs [] items)

/-! ### Indices -/

/-- A number as a float, if it is an integer or a float. -/
def float? (m : Meaning) : Option Float :=
  match m.number? with
  | some (.whole n) => some (Float.ofInt n)
  | some (.float x) => some x
  | _ => none

/-- The item of an index, which counts from the end if it is negative. -/
def itemAt? {α : Type} (items : List α) (index : Int) : Option α :=
  if 0 ≤ index then items[index.toNat]?
  else if -index ≤ items.length then items[items.length - (-index).toNat]?
  else none

/-- An end of a range among so many items. -/
def boundAmong (length : Nat) (backwards : Bool) (bound : Int) : Int :=
  let least : Int := if backwards then -1 else 0
  let greatest : Int := if backwards then length - 1 else length
  if bound < 0 then max least (bound + length) else min greatest bound

/-- A bound of a range of indices, if it is given. -/
def boundOf (m : Meaning) : Result (Option Int) :=
  match m, m.integer? with
  | .absent, _ => .ok none
  | _, some n => .ok (some n)
  | _, none => misused .noBound

/-- The first index of a range among so many items, the index that it ends before, and its step. -/
def rangeAmong (length : Nat) (start stop step : Meaning) : Result (Int × Int × Int) := do
  let stride := (← boundOf step).getD 1
  if stride = 0 then throw (.invalid "slice step cannot be zero")
  let first ← boundOf start
  let last ← boundOf stop
  let backwards := stride < 0
  let ends := boundAmong length backwards
  return (first.elim (if backwards then (length : Int) - 1 else 0) ends,
    last.elim (if backwards then -1 else (length : Int)) ends, stride)

/-- The items of a range with the given bounds. -/
def pickRange {α : Type} (items : List α) (start stop step : Meaning) : Result (List α) :=
  (rangeAmong items.length start stop step).map fun (first, last, stride) =>
    if stride = 1 then (items.take last.toNat).drop first.toNat
    else
      (stepsFrom first stride (rangeLength first last stride)).filterMap fun i => items[i.toNat]?

/-- The integers of a range that another range picks. -/
def pickOfRange (from_ to_ step : Int) (start stop stride : Meaning) : Result Meaning :=
  (rangeAmong (rangeLength from_ to_ step) start stop stride).map fun (first, last, by_) =>
    .range (from_ + first * step) (from_ + last * step) (step * by_)

/-- What a sequence is called where an index is beyond it. -/
def sequenceName (type : String) : String :=
  if type = "str" then "string"
  else if type = "range" then "range object"
  else type

/-- The greatest index. -/
def greatestIndex : Nat := twoPow 63 - 1

/-- An index that is no greater than any can be. -/
def checkIndex (n : Int) : Result Unit :=
  if greatestIndex < n.natAbs then
    .error (.issue .index "cannot fit 'int' into an index-sized integer")
  else .ok ()

/-- What an index picks out of the items of a sequence. -/
def pick (type : String) (items : List Meaning) (ofItems : List Meaning → Meaning)
    (index : Meaning) : Result Meaning :=
  match index, index.integer? with
  | .slice start stop step, _ => (pickRange items start stop step).map ofItems
  | _, some n =>
    (checkIndex n).bind fun _ =>
      match itemAt? items n with
      | some item => .ok item
      | none => .error (.noIndex (sequenceName type))
  | _, none =>
    misused (if type = "str" then .textIndex index.typeName
      else .sequenceIndex (if type = "bytes" then "byte" else type) index.typeName)

/-! ### Subscripts -/

/-- A class with a subscript. -/
def subscriptClass (c : KnownClass) (index : Meaning) (arguments : List Meaning) :
    Result Meaning :=
  if c = annotatedClass then annotate arguments
  else if isCollection c then .ok (.applied c arguments)
  else if c.make = .enumeration then (shownText index).bind fun shown => .error (.noKey shown)
  else misused (.notApplicable c.messageName)

/-- The text of which letters are the items. -/
def textOf (letters : List Meaning) : Meaning :=
  .text (String.join (letters.filterMap Meaning.text?))

/-- The bytes of which integers are the items. -/
def bytesOf (items : List Meaning) : Meaning :=
  .bytes (items.filterMap fun m => m.integer?.map fun n => .ofNat n.toNat)

/-- What belongs to a key of a dictionary. -/
def valueOfKey (key : Meaning) (items : List Meaning) : Result Meaning :=
  match key.unhashable?, lookUp? key items with
  | some type, _ => misused (.unhashable type)
  | none, some value => .ok value
  | none, none => (shownText key).bind fun shown => .error (.noKey shown)

/-- A meaning with a subscript. -/
def subscript (target index : Meaning) : Result Meaning :=
  let arguments := match index with
    | .tuple items => items
    | only => [only]
  match target, target.text?, index with
  | .form .optional, _, _ => optional index
  | .form .union, _, _ => unionOf arguments
  | .named c, _, _ => subscriptClass c index arguments
  | .union .., _, _ | .annotated .., _, _ | .applied .., _, _ =>
    (shownText target).bind fun shown => misused (.applied shown)
  | _, some s, _ => pick "str" (lettersOf s) textOf index
  | .tuple items, _, _ | .labelled _ _ items, _, _ => pick "tuple" items .tuple index
  | .collection .list _ items, _, _ => pick "list" items .list index
  | .bytes content, _, _ =>
    pick "bytes" (content.map fun b => .natural b.toNat) bytesOf index
  | .range start stop step, _, .slice first last stride =>
    pickOfRange start stop step first last stride
  | .range start stop step, _, _ =>
    match index.integer? with
    | some n =>
      let length := rangeLength start stop step
      if -length ≤ n ∧ n < length then
        .ok (.integer (start + step * (if n < 0 then n + length else n)))
      else .error (.noIndex (sequenceName "range"))
    | none => misused (.sequenceIndex "range" index.typeName)
  | .collection .dictionary _ items, _, _ => valueOfKey index items
  | _, _, _ => misused (.notIndexable target.typeName)

end SheetExport.Annotation
