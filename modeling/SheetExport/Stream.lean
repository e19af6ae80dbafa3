/-
**Streams of records that can be looked ahead.**

A source is a finite list of items that ends, or that fails at some point and is exhausted from then
on. A `Stream` takes items from its source one at a time and only when they are needed: looking
ahead moves one item into the buffer, from which it is delivered next. `taken` counts what has left
the source, failures included.
-/

import SheetExport.Value.Basic

namespace SheetExport

/-- What a source holds at one point: a record, or a failure. -/
inductive Item (α : Type)
  | record (a : α)
  | failure (fault : Fault)

/-- A record that was made, or why it was not. -/
def Item.ofResult {α : Type} : Except Fault α → Item α
  | .ok a => .record a
  | .error fault => .failure fault

/-- A source of records with a buffer for what has been looked at. -/
structure Stream (α : Type) where
  buffer : List α
  source : List (Item α)
  taken : Nat

/-- Why a stream gives no record. -/
inductive StreamEnd
  | exhausted
  | failed (fault : Fault)
deriving Repr, DecidableEq

namespace Stream

variable {α : Type}

/-- The stream over a source. -/
def ofItems (items : List (Item α)) : Stream α := ⟨[], items, 0⟩

/-- The stream over given records. -/
def ofList (records : List α) : Stream α := ofItems (records.map .record)

/-- Takes the next item out of the source; nothing is left after a failure. -/
def pull (s : Stream α) : Except StreamEnd α × Stream α :=
  match s.source with
  | [] => (.error .exhausted, s)
  | .record a :: rest => (.ok a, { s with source := rest, taken := s.taken + 1 })
  | .failure fault :: _ => (.error (.failed fault), { s with source := [], taken := s.taken + 1 })

/-- The next record, which stays in the stream. -/
def peek (s : Stream α) : Except StreamEnd α × Stream α :=
  match s.buffer with
  | a :: _ => (.ok a, s)
  | [] =>
    match s.pull with
    | (.ok a, s') => (.ok a, { s' with buffer := [a] })
    | (.error e, s') => (.error e, s')

/-- Whether there is a next record. -/
def hasNext (s : Stream α) : Except Fault Bool × Stream α :=
  match s.peek with
  | (.ok _, s') => (.ok true, s')
  | (.error .exhausted, s') => (.ok false, s')
  | (.error (.failed fault), s') => (.error fault, s')

/-- The next record, which leaves the stream. -/
def next (s : Stream α) : Except StreamEnd α × Stream α :=
  match s.buffer with
  | a :: rest => (.ok a, { s with buffer := rest })
  | [] => s.pull

/-- The records at the front of a source, and the failure after them, if there is one. -/
def recordsOf : List (Item α) → List α × Option Fault
  | [] => ([], none)
  | .failure fault :: _ => ([], some fault)
  | .record a :: rest =>
    let (records, failure) := recordsOf rest
    (a :: records, failure)

/-- All remaining records, unless the source fails on the way; then those before are lost. -/
def drain (s : Stream α) : Except Fault (List α) × Stream α :=
  let (records, failure) := recordsOf s.source
  match failure with
  | some fault => (.error fault, ⟨[], [], s.taken + records.length + 1⟩)
  | none => (.ok (s.buffer ++ records), ⟨[], [], s.taken + records.length⟩)

end Stream

end SheetExport
