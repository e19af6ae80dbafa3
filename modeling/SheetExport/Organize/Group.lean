/-
**Sources grouped by the sheet that their records go to.**

Each named source is a stream. Its first record, which stays in the stream, tells the record type
and with it the sheets. A type with several sheets is read to the end at once, and every sheet gets
a stream of its own over the same records; otherwise the sheet reads the source itself, lazily.
-/

import SheetExport.Catalog.Describe
import SheetExport.Stream

namespace SheetExport

/-- A stream that was put up, and the key that what it takes is counted under, if it is counted. -/
structure Supply where
  stream : Stream Record
  key : Option String

/-- The catalog, the streams by number, how much was taken of each key since the counting began, and
which readings of rows have ended. -/
structure Workspace where
  catalog : Catalog
  supplies : List Supply
  pulled : List (String × Nat)
  ended : List Nat
  nextReading : Nat

/-- Computations on a workspace that may fail. -/
abbrev WorkspaceM := ExceptT Failure (StateM Workspace)

/-- The counts with one changed; a key without a count gets one from nothing. -/
def changeCount (change : Nat → Nat) (key : String) : List (String × Nat) → List (String × Nat)
  | [] => [(key, change 0)]
  | (known, count) :: rest =>
    if known = key then (known, change count) :: rest
    else (known, count) :: changeCount change key rest

namespace Workspace

/-- The workspace in which nothing happened yet. -/
def empty : Workspace := ⟨.empty, [], [], [], 0⟩

/-- A computation on the catalog of a workspace. -/
def onCatalog {α : Type} (x : CatalogM α) : WorkspaceM α := ExceptT.mk fun w =>
  let (result, catalog) := x.run.run w.catalog
  (result, { w with catalog := catalog })

/-- The stream of a number. -/
def stream (w : Workspace) (number : Nat) : Stream Record :=
  (w.supplies[number]?.map Supply.stream).getD (.ofItems [])

/-- An operation on the stream of a number. -/
def onStream {α : Type} (number : Nat) (operation : Stream Record → α × Stream Record) :
    WorkspaceM α := ExceptT.mk fun w =>
  let before := w.stream number
  let (result, after) := operation before
  let key := w.supplies[number]?.bind Supply.key
  let pulled := match key, after.taken - before.taken with
    | none, _ | _, 0 => w.pulled
    | some key, count => changeCount (· + count) key w.pulled
  (.ok result, { w with supplies := w.supplies.set number (Supply.mk after key), pulled := pulled })

/-- Puts up a stream and gives its number. -/
def addStream (stream : Stream Record) (key : Option String) : WorkspaceM Nat := do
  let w ← get
  set { w with
    supplies := w.supplies ++ [Supply.mk stream key]
    pulled := key.elim w.pulled fun key => changeCount (fun _ => 0) key w.pulled }
  return w.supplies.length

/-- Forgets what was counted. -/
def restartCount : WorkspaceM Unit := modify fun w => { w with pulled := [] }

end Workspace

/-- A stream of records of a type, and the sheet they go to. -/
structure SheetEntry where
  stream : Nat
  type : RecordType
  sheet : Sheet

/-- The entries for one sheet. They can be taken once. -/
structure SheetGroup where
  order : Option Int
  entries : List SheetEntry
  consumed : Bool

namespace SheetGroup

/-- The group without entries. -/
def empty (order : Option Int) : SheetGroup := ⟨order, [], false⟩

/-- The group with one more entry, unless its entries were taken. -/
def add (g : SheetGroup) (entry : SheetEntry) : Except Failure SheetGroup :=
  if g.consumed then .error .groupConsumed else .ok { g with entries := g.entries ++ [entry] }

/-- The entries, and the group that has none to give any more. -/
def take (g : SheetGroup) : Except Failure (List SheetEntry × SheetGroup) :=
  if g.consumed then .error .groupTaken else .ok (g.entries, { g with consumed := true })

end SheetGroup

/-- Groups by the name of their sheet, in the order of first encounter. -/
abbrev SheetGroups := List (String × SheetGroup)

namespace Workspace

/-- The first record of a source, which stays in its stream. -/
def firstRecord (key : String) (number : Nat) : WorkspaceM Record := do
  match ← onStream number Stream.peek with
  | .ok record => return record
  | .error .exhausted => throw (.emptySource key)
  | .error (.failed fault) => throw (.fault fault)

/-- A stream for each of several sheets: the source itself for one sheet, else copies of it. -/
def streamsFor (number : Nat) (sheets : List (String × Sheet)) : WorkspaceM (List Nat) := do
  match sheets with
  | [_] => return [number]
  | _ =>
    match ← onStream number Stream.drain with
    | .error fault => throw (.fault fault)
    | .ok records => sheets.mapM fun _ => addStream (.ofList records) none

/-- The groups with one more entry for a sheet; the first entry decides the order. -/
def addEntry (key : String) (groups : SheetGroups) (name : String) (entry : SheetEntry) :
    WorkspaceM SheetGroups := do
  match groups.lookup name with
  | none => return groups ++ [(name, ⟨entry.sheet.order, [entry], false⟩)]
  | some group =>
    if group.order ≠ entry.sheet.order then
      onCatalog (Catalog.warn (.orderIgnored name key entry.sheet.order group.order))
    return groups.map fun (n, g) =>
      if n = name then (n, { g with entries := g.entries ++ [entry] }) else (n, g)

/-- The groups with the entries of one more source. -/
def addSource (groups : SheetGroups) (key : String) (number : Nat) : WorkspaceM SheetGroups := do
  let type := (← firstRecord key number).type
  let sheets := (← onCatalog (Catalog.describeSheets type)).value
  let numbers ← streamsFor number sheets
  (sheets.zip numbers).foldlM (fun groups ((name, sheet), stream) =>
    addEntry key groups name ⟨stream, type, sheet⟩) groups

/-- The groups of named sources, each given by the number of its stream. -/
def groupSheets (sources : List (String × Nat)) : WorkspaceM SheetGroups :=
  sources.foldlM (fun groups (key, number) => addSource groups key number) []

end Workspace

/-! ### Order of sheets -/

/-- The first group whose order an earlier one has, with that one's name. -/
def firstDuplicateOrder? : List (Int × String) → SheetGroups → Option (Int × String × String)
  | _, [] => none
  | seen, (name, group) :: rest =>
    match group.order with
    | none => firstDuplicateOrder? seen rest
    | some order =>
      match seen.lookup order with
      | some first => some (order, first, name)
      | none => firstDuplicateOrder? ((order, name) :: seen) rest

/-- The order in which sheets are written: those without an order first, then by their orders. -/
def orderSheets (groups : SheetGroups) : Except Failure SheetGroups :=
  match firstDuplicateOrder? [] groups with
  | some (order, first, second) => .error (.duplicateOrder order first second)
  | none =>
    .ok (groups.filter (·.2.order.isNone) ++
      (groups.filter (·.2.order.isSome)).mergeSort fun a b =>
        decide (a.2.order.getD 0 ≤ b.2.order.getD 0))

end SheetExport
