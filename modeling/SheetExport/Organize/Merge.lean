/-
**Sheets with the columns of several entries side by side.**

Columns of different orders are interleaved by order, and otherwise each entry's columns follow
those of the entry before. The entries' streams are read in step: a row has the next record of each,
or none where a stream has ended, and rows end when all streams have.
-/

import SheetExport.Organize.Group

namespace SheetExport

/-- A sheet with its entries; `layout` tells for each column which entry it reads. -/
structure MergedSheet where
  sheet : Sheet
  entries : List SheetEntry
  layout : List Nat
  /-- The number of the one reading of its rows. -/
  reading : Nat

/-- The header of a merged sheet, if it has one. -/
def MergedSheet.header? (m : MergedSheet) : Option HeaderPlan :=
  if m.sheet.hasHeader then some (planHeader m.sheet.columns) else none

/-! ### Layout -/

/-- The columns of all entries, each with the index of its entry. -/
def entryColumns (entries : List SheetEntry) : List (Column × Nat) :=
  ((List.range entries.length).zip entries).flatMap fun (index, entry) =>
    entry.sheet.columns.map (·, index)

/-- The orders that more than one column has, ascending. -/
def sharedOrdersOf (columns : List (Column × Nat)) : List Int :=
  let orders := columns.map (·.1.order)
  ((distinct orders).filter (1 < orders.count ·)).mergeSort fun a b => decide (a ≤ b)

/-- Columns by ascending order. -/
def interleave (columns : List (Column × Nat)) : List (Column × Nat) :=
  columns.mergeSort fun a b => decide (a.1.order ≤ b.1.order)

namespace Workspace

/-- A reading that has not begun. -/
def newReading : WorkspaceM Nat := do
  let w ← get
  set { w with nextReading := w.nextReading + 1 }
  return w.nextReading

/-- The sheet of entries; if orders collide it is refused or, unless `strict`, laid out in turn. -/
def merge (name : String) (order : Option Int) (entries : List SheetEntry) (strict : Bool) :
    WorkspaceM MergedSheet := do
  match entries with
  | [] => throw (.noEntries name)
  | [only] =>
    return ⟨only.sheet, [only], List.replicate only.sheet.columns.length 0, ← newReading⟩
  | first :: _ =>
    let columns := entryColumns entries
    let shared := sharedOrdersOf columns
    let types := entries.map (·.type.title)
    let arranged ←
      if shared.isEmpty then
        let sorted := interleave columns
        match checkMergeHeaders (sorted.map Prod.fst) with
        | .error gap => throw (.mergeHeader ("sheet " ++ Text.quoted name) gap)
        | .ok () => pure sorted
      else if strict then throw (.orderConflict name shared types)
      else
        onCatalog (Catalog.warn (.ordersCollide name shared types))
        pure columns
    return ⟨⟨name, arranged.map Prod.fst, first.sheet.hasHeader, order⟩, entries,
      arranged.map Prod.snd, ← newReading⟩

/-- Groups, orders and merges named sources. -/
def prepareSheets (sources : List (String × Nat)) (strict : Bool) :
    WorkspaceM (List MergedSheet) := do
  match orderSheets (← groupSheets sources) with
  | .error failure => throw failure
  | .ok groups => groups.mapM fun (name, group) => merge name group.order group.entries strict

/-! ### Rows -/

/-- Ends a reading. -/
def endReading (reading : Nat) : WorkspaceM Unit :=
  modify fun w => { w with ended := reading :: w.ended }

/-- Whether a stream has a further record; a failure ends the reading. -/
def hasNext (reading : Nat) (entry : SheetEntry) : WorkspaceM Bool := do
  match ← onStream entry.stream Stream.hasNext with
  | .ok found => return found
  | .error fault =>
    endReading reading
    throw (.fault fault)

/-- The next record of a stream that had one; a stream that has none any more ends the reading. -/
def nextRecord (reading : Nat) (entry : SheetEntry) : WorkspaceM Record := do
  match ← onStream entry.stream Stream.next with
  | .ok record => return record
  | .error stop =>
    endReading reading
    match stop with
    | .exhausted => throw .endedWithinRow
    | .failed fault => throw (.fault fault)

/-- The next record of every entry, or none of any entry at the end. -/
def nextRecords (m : MergedSheet) : WorkspaceM (Option (List (Option Record))) := do
  if (← get).ended.contains m.reading then return none
  let available ← m.entries.mapM (hasNext m.reading)
  if available.any id then
    let records ← (m.entries.zip available).mapM fun (entry, found) => do
      if found then return some (← nextRecord m.reading entry) else return none
    return some records
  else
    endReading m.reading
    return none

/-- The cell of a column for the record that its entry has in this row, if it has one. -/
def cellFor (records : List (Option Record)) (column : Column) (entry : Nat) :
    Except Fault Cell :=
  match records[entry]?.join with
  | none => .ok column.emptyCell
  | some record => if record.isNull then .ok column.emptyCell else column.extract record

/-- The cells of the next row. -/
def nextRow (m : MergedSheet) : WorkspaceM (Option (List Cell)) := do
  match ← nextRecords m with
  | none => return none
  | some records =>
    match (m.sheet.columns.zip m.layout).mapM fun (c, entry) => cellFor records c entry with
    | .ok cells => return some cells
    | .error fault => throw (.fault fault)

/-- Up to `count` further rows, and the failure that stopped them, if one did. -/
def takeRows (m : MergedSheet) : Nat → StateM Workspace (List (List Cell) × Option Failure)
  | 0 => return ([], none)
  | count + 1 => do
    match ← (nextRow m).run with
    | .error failure => return ([], some failure)
    | .ok none => return ([], none)
    | .ok (some row) =>
      let (rows, failure) ← takeRows m count
      return (row :: rows, failure)

/-- No more than this many rows are left, as each takes a record from some stream. -/
def rowBound (m : MergedSheet) (w : Workspace) : Nat :=
  m.entries.foldr (fun entry bound =>
    let stream := w.stream entry.stream
    stream.buffer.length + stream.source.length + bound) 1

/-- All further rows, and the failure that stopped them, if one did. -/
def takeAllRows (m : MergedSheet) : StateM Workspace (List (List Cell) × Option Failure) := do
  takeRows m (rowBound m (← get))

/-- The frame of all further rows. -/
def collectFrame (m : MergedSheet) : WorkspaceM (List (List CellValue)) := do
  match ← (takeAllRows m : StateM Workspace _) with
  | (_, some failure) => throw failure
  | (rows, none) => return rows.map (·.map Cell.value)

end Workspace

end SheetExport
