/-
**Items in order.**

The least or the greatest of items is found, and items are sorted, by comparing two of them at a
time; what is equal keeps its order. Items may have keys by which they are compared, and two that
have no order are a misuse. Which two are compared first shows in the misuse: a run at the front is
found, and every further item is put to its place by halving what is in order already. Many items
are sorted in blocks that are merged.
-/

import SheetExport.Annotation.Arithmetic

namespace SheetExport.Annotation

/-- An item with the key by which it is compared. -/
structure Keyed where
  key : Meaning
  item : Meaning

/-- An item that is its own key. -/
def Keyed.ofItem (m : Meaning) : Keyed := ⟨m, m⟩

/-- The item that an order puts before all the others, the first of those that are equal. -/
def foremost (operator : String) (best : Keyed) : List Keyed → Result Meaning
  | [] => .ok best.item
  | m :: rest =>
    (order operator m.key best.key).bind fun isBefore =>
      foremost operator (if isBefore then m else best) rest

/-- An item comes before another one. -/
def Keyed.isBefore (m other : Keyed) : Result Bool := order "<" m.key other.key

/-- The items at the front, after a last one, that all come before the ones in front of them, or that
all do not; and the rest. -/
def takeRun (descends : Bool) (last : Keyed) : List Keyed → Result (List Keyed × List Keyed)
  | [] => .ok ([], [])
  | m :: rest =>
    (m.isBefore last).bind fun isBefore =>
      if isBefore = descends then
        (takeRun descends m rest).map fun (run, others) => (m :: run, others)
      else .ok ([], m :: rest)

/-- The items at the front that are in order, or that are once they are reversed; and the rest. -/
def splitRun : List Keyed → Result (List Keyed × List Keyed)
  | first :: second :: rest =>
    (second.isBefore first).bind fun descends =>
      (takeRun descends second rest).map fun (run, others) =>
        let all := first :: second :: run
        (if descends then all.reverse else all, others)
  | short => .ok (short, [])

/-- How many of the items between two places come before another one or are equal to it. -/
def placeAmong (sorted : List Keyed) (m : Keyed) : Nat → Nat → Nat → Result Nat
  | 0, low, _ => .ok low
  | fuel + 1, low, high =>
    if high ≤ low then .ok low
    else
      let middle := (low + high) / 2
      match sorted[middle]? with
      | none => .ok low
      | some other =>
        (m.isBefore other).bind fun isBefore =>
          if isBefore then placeAmong sorted m fuel low middle
          else placeAmong sorted m fuel (middle + 1) high

/-- Items in order with one more where it belongs, after those that are equal to it. -/
def insertInOrder (sorted : List Keyed) (m : Keyed) : Result (List Keyed) :=
  (placeAmong sorted m (sorted.length + 1) 0 sorted.length).map fun place =>
    sorted.take place ++ m :: sorted.drop place

/-- A few items in order. -/
def sortBlock (items : List Keyed) : Result (List Keyed) :=
  (splitRun items).bind fun (run, others) => others.foldlM insertInOrder run

/-- Two lists that are in order, as one in reverse order before what is merged already. -/
def mergeOnto (merged : List Keyed) : List Keyed → List Keyed → Result (List Keyed)
  | [], right => .ok (right.reverse ++ merged)
  | left, [] => .ok (left.reverse ++ merged)
  | a :: left, b :: right =>
    (b.isBefore a).bind fun isBefore =>
      if isBefore then mergeOnto (b :: merged) (a :: left) right
      else mergeOnto (a :: merged) left (b :: right)
termination_by left right => left.length + right.length

/-- Lists that are in order, merged two by two. -/
def mergePairs : List (List Keyed) → Result (List (List Keyed))
  | left :: right :: rest =>
    (mergeOnto [] left right).bind fun merged =>
      (mergePairs rest).map (merged.reverse :: ·)
  | short => .ok short

/-- Lists that are in order, merged into one. -/
def mergeBlocks : Nat → List (List Keyed) → Result (List Keyed)
  | 0, blocks => .ok blocks.flatten
  | _, [] => .ok []
  | _, [only] => .ok only
  | fuel + 1, blocks => (mergePairs blocks).bind (mergeBlocks fuel)

/-- How many items are sorted as one block. -/
def blockSize : Nat := 63

/-- Blocks of items. -/
def blocksOf : Nat → List Keyed → List (List Keyed)
  | 0, _ | _, [] => []
  | fuel + 1, items => items.take blockSize :: blocksOf fuel (items.drop blockSize)

/-- Items in ascending order, or in descending order, where equal ones still keep theirs. -/
def sortItems (descending : Bool) (items : List Keyed) : Result (List Meaning) := do
  let given := if descending then items.reverse else items
  let blocks ← (blocksOf (items.length + 1) given).mapM sortBlock
  let sorted ← mergeBlocks (blocks.length + 1) blocks
  return (if descending then sorted.reverse else sorted).map Keyed.item

end SheetExport.Annotation
