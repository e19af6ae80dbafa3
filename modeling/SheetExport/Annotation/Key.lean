/-
**Keys of meanings.**

What is equal has the same key (`Meaning.key?`), as far as keys are known: numbers have theirs, and
tuples and sets that do not change have one if all their items have. Meanings that are equal lie in
the same bucket (`Meaning.bucket`), so that the first ones of equals (`Meaning.distinct`) and the last
values for keys (`putPairs`) are found without comparing each with all the others.
-/

import SheetExport.Annotation.Meaning
import SheetExport.Value.Arrangement
import SheetExport.Value.Hash
import Std.Data.HashMap

namespace SheetExport.Annotation

namespace Meaning

mutual

/-- The key of a meaning, if it is known. -/
def key? : Meaning → Option Int
  | value v =>
    match Numeric.ofValue? v, v.textual?, v with
    | some n, _, _ => n.key?
    | none, some s, _ => if s.isEmpty then some 0 else none
    | none, none, .duration d =>
      let (days, seconds, rest) := d.fields
      some (Numeric.tupleKey [days, seconds, rest])
    | none, none, _ => none
  | bytes content => if content.isEmpty then some 0 else none
  | tuple items | labelled _ _ items => (keysIn? items).map Numeric.tupleKey
  | frozen items => (keysIn? items).map Numeric.setKey
  | _ => none

/-- The keys of meanings, if all are known. -/
def keysIn? : List Meaning → Option (List Int)
  | [] => some []
  | m :: rest => (key? m).bind fun key => (keysIn? rest).map (key :: ·)

end

/-- The bucket of a meaning; those of equal meanings are equal. -/
def bucket (m : Meaning) : UInt64 :=
  match m.key?, m.text?, m with
  | some key, _, _ => hash key
  | none, some s, _ => hash s
  | none, none, named c => hash c.name
  | none, none, _ => 0

/-- The meanings without those that are equal to an earlier one. -/
def distinct (meanings : List Meaning) : List Meaning :=
  let step := fun (found : Std.HashMap UInt64 (List Meaning) × List Meaning) (m : Meaning) =>
    let bucket := m.bucket
    let near := found.1.getD bucket []
    if near.any (same · m) then found else (found.1.insert bucket (m :: near), m :: found.2)
  (meanings.foldl step (∅, [])).2.reverse

/-- Keys with their values in the order in which they came, and where a key of a bucket is. -/
structure PairTable where
  pairs : Array (Meaning × Meaning) := #[]
  places : Std.HashMap UInt64 (List Nat) := ∅

/-- The table with a value for a key. -/
def PairTable.put (t : PairTable) (key m : Meaning) : PairTable :=
  let bucket := key.bucket
  let near := t.places.getD bucket []
  let found := near.find? fun place => (t.pairs[place]?).any fun (known, _) => key.same known
  match t, found with
  | ⟨pairs, places⟩, some place =>
    ⟨pairs.modify place fun (known, _) => (known, m), places⟩
  | ⟨pairs, places⟩, none =>
    let near := pairs.size :: near
    ⟨pairs.push (key, m), places.insert bucket near⟩

/-- The table with keys and values that come by turns. -/
def PairTable.putAll (t : PairTable) : List Meaning → PairTable
  | key :: m :: rest => (t.put key m).putAll rest
  | _ => t

/-- Keys and values by turns. -/
def PairTable.toList (t : PairTable) : List Meaning :=
  t.pairs.toList.flatMap fun (key, m) => [key, m]

/-- The members of a set in the order in which they are gone through; the set may be written out as a
whole. -/
def arrangedAs (isWritten : Bool) (members : List Meaning) : List Meaning :=
  Arrangement.arranged isWritten (members.map key?) members

/-- The members of a set in the order in which they are gone through. -/
def arranged (members : List Meaning) : List Meaning := arrangedAs false members

/-- The members of a set in order after others came to them; there is room for so many more before. -/
def joined (more : Nat) (members others : List Meaning) : List Meaning :=
  Arrangement.joined more (members.map key?) members (others.map key?) others

/-- The members of the set of given items, in order. -/
def membersOf (items : List Meaning) : List Meaning := arranged (distinct items)

end Meaning

end SheetExport.Annotation
