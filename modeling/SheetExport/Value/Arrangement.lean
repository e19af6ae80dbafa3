/-
**The order of the members of a set.**

Members of a set that have keys come in the order of the slots of a table. A member is put into the
first free slot among those that its key leads to (`freeSlot?`), and a table that becomes too full is
replaced by a larger one, into which its members are put one after the other. `arranged` puts all
members into a table and reads them off.
-/

import SheetExport.Number.Binary

namespace SheetExport.Arrangement

/-- A table: its slots, and how many members are in it. -/
structure Table (α : Type) where
  slots : Array (Option (UInt64 × α))
  count : Nat

/-- A table without members. -/
def Table.empty {α : Type} (size : Nat) : Table α := ⟨.replicate size none, 0⟩

/-- How many slots beside one are looked at before a jump. -/
def neighbours : Nat := 9

/-- The first free slot among those from a place on, and among those that jumps lead to. -/
def freeSlot? {β : Type} (slots : Array (Option β)) : Nat → UInt64 → UInt64 → Option Nat
  | 0, _, _ => none
  | fuel + 1, place, key =>
    let mask := (slots.size - 1).toUInt64
    let first := place.toNat
    let near := if first + neighbours ≤ mask.toNat then neighbours + 1 else 1
    match (List.range near).find? fun k => (slots[first + k]?.join).isNone with
    | some k => some (first + k)
    | none =>
      let key : UInt64 := key >>> 5
      let next : UInt64 := place * 5 + 1 + key
      freeSlot? slots fuel (next &&& mask) key

/-- A table with one more member, which has no more slots than before. -/
def Table.put {α : Type} (t : Table α) (m : UInt64 × α) : Table α :=
  match freeSlot? t.slots (t.slots.size + 64) (m.1 &&& (t.slots.size - 1).toUInt64) m.1 with
  | some slot => ⟨t.slots.setIfInBounds slot (some m), t.count + 1⟩
  | none => t

/-- The members of a table in the order of its slots. -/
def Table.members {α : Type} (t : Table α) : List (UInt64 × α) := t.slots.toList.filterMap id

/-- The number of slots above a bound: the first power of two from eight on. -/
def sizeAbove (bound : Nat) : Nat := max 8 (twoPow (bound.log2 + 1))

/-- A table that is larger if it was too full. -/
def Table.grown {α : Type} (t : Table α) : Table α :=
  if t.count * 5 < (t.slots.size - 1) * 3 then t
  else
    let factor := if 50000 < t.count then 2 else 4
    t.members.foldl Table.put (.empty (sizeAbove (t.count * factor)))

/-- The table of members that come one after the other. -/
def Table.ofMembers {α : Type} (members : List (UInt64 × α)) : Table α :=
  members.foldl (fun t m => (t.put m).grown) (.empty 8)

/-- A table that has enough slots for its members and so many more. -/
def Table.sized {α : Type} (t : Table α) (more size : Nat) : Table α :=
  let total := t.count + more
  if total * 5 < (size - 1) * 3 then t
  else t.members.foldl Table.put (.empty (sizeAbove (total * 2)))

/-- The members of a table, put into another one that has enough slots for all of them. -/
def Table.copied {α : Type} (t : Table α) : Table α :=
  let copy := t.sized 0 8
  if copy.slots.size = t.slots.size then t else copy

/-- Members with keys, if all have one. -/
def withKeys? {α : Type} (keys : List (Option Int)) (members : List α) :
    Option (List (UInt64 × α)) :=
  (keys.mapM id).map fun keys => (keys.map UInt64.ofInt).zip members

/-- Members in the order of the slots that their keys lead to; as they are if one has no key. A set
that is written out as a whole is a copy of a table that is made of the members of another one. -/
def arranged {α : Type} (isWritten : Bool) (keys : List (Option Int)) (members : List α) : List α :=
  match withKeys? keys members with
  | none => members
  | some members =>
    let table := Table.ofMembers members
    (if isWritten then (Table.ofMembers table.members).copied else table).members.map Prod.snd

/-- Members in order after others came to them; slots for so many more are made before. -/
def joined {α : Type} (more : Nat) (keys : List (Option Int)) (members : List α)
    (keys' : List (Option Int)) (others : List α) : List α :=
  match withKeys? keys members, withKeys? keys' others with
  | some members, some others =>
    let copy := (Table.ofMembers members).copied
    let table := copy.sized more copy.slots.size
    (others.foldl (fun (t : Table α) m => (t.put m).grown) table).members.map Prod.snd
  | _, _ => members ++ others

end SheetExport.Arrangement
