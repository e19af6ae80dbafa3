/-
**Functions of collections.**

Lists, dictionaries and sets are asked for items, made into others, and changed. An `Outcome` is what
a function gives, with what its owner holds afterwards if that is something else. Tuples, ranges and
views have some of the functions too.
-/

import SheetExport.Annotation.Making
import SheetExport.Annotation.Order

namespace SheetExport.Annotation

open Meaning (keysOf valuesOf pairsOf rangeLength)

/-- What a function gives, and what its owner holds afterwards, if that changes. -/
structure Outcome where
  result : Meaning
  contents : Option (List Meaning) := none

/-- What changes its owner and gives nothing. -/
def Outcome.change (contents : List Meaning) : Outcome := ⟨.absent, some contents⟩

/-- A result that leaves its owner as it is. -/
def unchanged (x : Result Meaning) : Result Outcome := x.map fun m => ⟨m, none⟩

/-! ### Sequences -/

/-- A bound that has to be given. -/
def givenBound (m : Meaning) : Result Int :=
  match m.integer? with
  | some n => .ok n
  | none => refuse "slice indices must be integers or have an __index__ method"

/-- The place of an item between two bounds. -/
def placeIn (items : List Meaning) (m : Meaning) (start stop : Option Meaning) :
    Result (Option Nat) := do
  let ends := boundAmong items.length false
  let first := (ends (← start.elim (.ok 0) givenBound)).toNat
  let last := (ends (← stop.elim (.ok (items.length : Int)) givenBound)).toNat
  return (((items.take last).drop first).findIdx? (m.same ·)).map (first + ·)

/-- How often a meaning is among items. -/
def countOf (items : List Meaning) (m : Meaning) : Meaning :=
  .natural (items.filter (m.same ·)).length

/-- The result of a function of a tuple. -/
def callTuple? (items : List Meaning) (name : String) (found : List (Option Meaning)) :
    Option (Result Meaning) :=
  match name, found with
  | "count", [some m] => some (.ok (countOf items m))
  | "index", [some m, start, stop] =>
    some ((placeIn items m start stop).bind fun place => match place with
      | some n => .ok (.natural n)
      | none => .error (.invalid "tuple.index(x): x not in tuple"))
  | _, _ => none

/-- The result of a function of a range. -/
def callRange? (start stop step : Int) (name : String) (found : List (Option Meaning)) :
    Option (Result Meaning) :=
  match name, found with
  | "count", [some m] =>
    some ((isIn m (.range start stop step)).map fun holds => .natural holds.toNat)
  | "index", [some m] =>
    some ((isIn m (.range start stop step)).bind fun holds =>
      match m.number?.bind Numeric.position?, m.integer? with
      | some (.at q), _ =>
        if holds then .ok (.integer ((q.num - start) / step))
        else if m.integer?.isSome then
          (shownText m).bind fun shown => .error (.invalid (shown ++ " is not in range"))
        else .error (.invalid "sequence.index(x): x not in sequence")
      | _, _ => .error (.invalid "sequence.index(x): x not in sequence"))
  | _, _ => none

/-- The bounds of a range of indices among so many items. -/
def boundsAmong (start stop step length : Meaning) : Result Meaning :=
  (indexOf length).bind fun n =>
    if n < 0 then .error (.invalid "length should not be negative")
    else
      (rangeAmong n.toNat start stop step).map fun (first, last, stride) =>
        .tuple [.integer first, .integer last, .integer stride]

/-! ### Lists -/

/-- A list without the item of an index, which is given. -/
def popItem (items : List Meaning) (index : Option Meaning) : Result Outcome :=
  (index.elim (.ok (-1)) countFrom).bind fun n =>
    if items.isEmpty then .error (.emptied "pop from empty list")
    else
      match itemAt? items n with
      | none => .error (.emptied "pop index out of range")
      | some m =>
        let place := (if n < 0 then n + items.length else n).toNat
        .ok ⟨m, some (items.eraseIdx place)⟩

/-- A list with an item before the one of an index. -/
def insertItem (items : List Meaning) (index m : Meaning) : Result Outcome :=
  (countFrom index).map fun n =>
    .change (items.insertIdx (boundAmong items.length false n).toNat m)

/-- The result of a function of a list. -/
def callList? (items : List Meaning) (name : String) (found : List (Option Meaning)) :
    Option (Result Outcome) :=
  match name, found with
  | "append", [some m] => some (.ok (.change (items ++ [m])))
  | "clear", _ => some (.ok (.change []))
  | "copy", _ => some (.ok ⟨.list items, none⟩)
  | "count", [some m] => some (.ok ⟨countOf items m, none⟩)
  | "extend", [some m] => some ((itemsOf m).map fun more => .change (items ++ more))
  | "index", [some m, start, stop] =>
    some ((placeIn items m start stop).bind fun place => match place with
      | some n => .ok ⟨.natural n, none⟩
      | none => (shownText m).bind fun shown => .error (.invalid (shown ++ " is not in list")))
  | "insert", [some index, some m] => some (insertItem items index m)
  | "pop", [index] => some (popItem items index)
  | "remove", [some m] =>
    some (match items.findIdx? (m.same ·) with
      | some place => .ok (.change (items.eraseIdx place))
      | none => .error (.invalid "list.remove(x): x not in list"))
  | "reverse", _ => some (.ok (.change items.reverse))
  | "sort", [none, descending] | "sort", [some .absent, descending] =>
    some ((descending.elim (.ok 0) indexOf).bind fun n =>
      (sortItems (n ≠ 0) (items.map .ofItem)).map .change)
  | _, _ => none

/-! ### Dictionaries -/

/-- The dictionary of keys that all have one value. -/
def fromKeys (found : List (Option Meaning)) : Result Meaning :=
  match found with
  | [some m, value] =>
    (itemsOf m).bind fun keys =>
      collect .dictionary (keys.flatMap fun key => [key, value.getD .absent])
  | _ => .ok .absent

/-- Keys and values without the last pair. -/
def popPair (items : List Meaning) : Result Outcome :=
  match items.reverse with
  | value :: key :: rest => .ok ⟨.tuple [key, value], some rest.reverse⟩
  | _ => .error (.noKey "'popitem(): dictionary is empty'")

/-- The result of a function of a dictionary at a place. -/
def callDictionary? (place : Nat) (items : List Meaning) (name : String)
    (found : List (Option Meaning)) : Option (Result Outcome) :=
  let view := fun (kind : View) => some (.ok ⟨.view kind place items, none⟩)
  let hashed := fun (key : Meaning) (x : Result Outcome) =>
    some ((checkHashable [key]).bind fun _ => x)
  match name, found with
  | "keys", _ => view .keys
  | "values", _ => view .values
  | "items", _ => view .pairs
  | "clear", _ => some (.ok (.change []))
  | "copy", _ => some (.ok ⟨.dictionary items, none⟩)
  | "get", [some key, default] =>
    hashed key (.ok ⟨((lookUp? key items).or default).getD .absent, none⟩)
  | "pop", [some key, default] =>
    if items.isEmpty then
      some (match default with
        | some m => .ok ⟨m, none⟩
        | none => (shownText key).bind fun shown => .error (.noKey shown))
    else
      hashed key (match lookUp? key items, default with
        | some value, _ => .ok ⟨value, some (withoutKey key items)⟩
        | none, some m => .ok ⟨m, none⟩
        | none, none => (shownText key).bind fun shown => .error (.noKey shown))
  | "popitem", _ => some (popPair items)
  | "setdefault", [some key, default] =>
    hashed key (match lookUp? key items with
      | some value => .ok ⟨value, none⟩
      | none =>
        let value := default.getD .absent
        .ok ⟨value, some (putPair key value items)⟩)
  | _, _ => none

/-! ### Sets -/

/-- The operator that a function of sets works by. -/
def setOperator? : String → Option String
  | "union" | "update" => some "|"
  | "intersection" | "intersection_update" => some "&"
  | "difference" | "difference_update" => some "-"
  | "symmetric_difference" | "symmetric_difference_update" => some "^"
  | _ => none

/-- The members that are left of a set after an operator with each of several others. -/
def combineAll (operator : String) (members : List Meaning) :
    List Meaning → Result (List Meaning)
  | [] => .ok members
  | m :: others => do
    let items ← itemsOf m
    checkHashable items
    combineAll operator ((combineSets? operator members (Meaning.distinct items)).getD []) others

/-- A set of members of the same kind as its owner. -/
def setLike (owner : Meaning) (members : List Meaning) : Meaning :=
  if owner.typeName = "frozenset" then .frozen members else .set members

/-- The result of a function of a set, or of a view that has members. -/
def callSet? (owner : Meaning) (members : List Meaning) (name : String)
    (found : List (Option Meaning)) : Option (Result Outcome) :=
  let given := found.filterMap id
  let within := fun (test : List Meaning → Bool) (m : Meaning) =>
    some ((itemsOf m).bind fun items =>
      (checkHashable items).map fun _ => Outcome.mk (.truth (test items)) none)
  let hashed := fun (key : Meaning) (x : Result Outcome) =>
    let isSet := key matches .collection .set ..
    some ((if isSet && name ≠ "add" then .ok () else checkHashable [key]).bind fun _ => x)
  match setOperator? name, name, given with
  | some operator, _, _ =>
    some ((combineAll operator members given).map fun left =>
      if name.endsWith "update" then .change left else ⟨setLike owner left, none⟩)
  | none, "add", [m] =>
    hashed m (.ok (.change (if isMember members m then members
      else Meaning.arranged (members ++ [m]))))
  | none, "clear", _ => some (.ok (.change []))
  | none, "copy", _ => some (.ok ⟨setLike owner members, none⟩)
  | none, "discard", [m] => hashed m (.ok (.change (members.filter (!m.same ·))))
  | none, "remove", [m] =>
    hashed m (if isMember members m then .ok (.change (members.filter (!m.same ·)))
      else (shownText m).bind fun shown => .error (.noKey shown))
  | none, "pop", _ =>
    some (match members with
      | m :: rest => .ok ⟨m, some rest⟩
      | [] => .error (.noKey "'pop from an empty set'"))
  | none, "isdisjoint", [m] => within (fun items => !items.any (isMember members)) m
  | none, "issubset", [m] => within (fun items => members.all (isMember items)) m
  | none, "issuperset", [m] => within (fun items => items.all (isMember members)) m
  | none, _, _ => none

end SheetExport.Annotation
