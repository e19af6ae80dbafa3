/-
**Iterators over the rows of a merged sheet.**

Any number of iterators can be obtained of a sheet, some that show cells and some that show values
only. All of them take from the one reading of its rows, so a row goes to the iterator that is pulled
when its turn comes. An iterator that came to its end, or that failed, gives nothing any more.
-/

import SheetExport.Organize.Merge

namespace SheetExport

/-- What an iterator shows of rows: the cells with their styles, or only the values. -/
inductive RowView
  | cells
  | values
deriving Repr, DecidableEq

/-- A row as an iterator shows it. -/
inductive ShownRow
  | cells (row : List Cell)
  | values (row : List CellValue)

/-- What is shown of a row. -/
def RowView.shown : RowView → List Cell → ShownRow
  | cells, row => .cells row
  | values, row => .values (row.map Cell.value)

/-- What an iterator gives when it is pulled. -/
inductive RowPull
  | row (shown : ShownRow)
  | ended
  | raised (failure : Failure)

/-- The row that is given, if one is. -/
def RowPull.row? : RowPull → Option ShownRow
  | row shown => some shown
  | _ => none

/-- Whether the pull failed. -/
def RowPull.isRaised : RowPull → Bool
  | raised _ => true
  | _ => false

/-- An iterator over rows. -/
structure RowIterator where
  view : RowView
  ended : Bool

/-- A step of reading a sheet: another iterator is obtained, or one of them is pulled. -/
inductive ReadStep
  | obtain (view : RowView)
  | pull (iterator : Nat)

namespace Workspace

/-- Pulls an iterator once. -/
def pullRow (m : MergedSheet) (iterator : RowIterator) :
    StateM Workspace (RowPull × RowIterator) := do
  if iterator.ended then return (.ended, iterator)
  match ← (nextRow m).run with
  | .ok (some row) => return (.row (iterator.view.shown row), iterator)
  | .ok none => return (.ended, { iterator with ended := true })
  | .error failure => return (.raised failure, { iterator with ended := true })

/-- What the iterators give that are pulled, each with what it shows. There is nothing to pull where
no iterator was obtained. -/
def readSteps (m : MergedSheet) : List ReadStep → List RowIterator →
    StateM Workspace (List (RowView × RowPull))
  | [], _ => return []
  | .obtain view :: steps, iterators => readSteps m steps (iterators ++ [⟨view, false⟩])
  | .pull i :: steps, iterators =>
    match iterators[i]? with
    | none => readSteps m steps iterators
    | some iterator => do
      let (given, behind) ← pullRow m iterator
      let others ← readSteps m steps (iterators.set i behind)
      return (iterator.view, given) :: others

end Workspace

end SheetExport
