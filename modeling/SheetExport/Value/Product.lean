/-
**Products of values and integers.**

Numbers are multiplied exactly, floats and decimals within their precision, and a text is repeated.
`Value.scale` has no result for other kinds, for products beyond the range of their kind, and for
texts that would not fit into the memory.
-/

import SheetExport.Value.Temporal

namespace SheetExport.Value

/-- The greatest number that can count something. -/
def greatestCount : Nat := twoPow 63 - 1

/-- The length from which on a text does not fit into the memory. -/
def memoryLimit : Nat := twoPow 36

/-- A text repeated; not at all for a count below one. -/
def repeated (s : String) (count : Int) : Except Fault String :=
  if greatestCount < count ∨ count < -(greatestCount + 1) then .error .beyondCounts
  else
    let length := s.length * count.toNat
    if greatestCount < length then .error .tooLong
    else if memoryLimit ≤ length then .error .outOfMemory
    else if s.isEmpty then .ok s
    else .ok (String.ofList (List.replicate count.toNat s.toList).flatten)

/-- A float times an integer, which must not be beyond all floats. -/
def scaledFloat (x : Float) (k : Int) : Except Fault Float :=
  let factor := nearestFloat k.natAbs 1
  if factor.isFinite then .ok (x * signedFloat (decide (k < 0)) factor) else .error .beyondFloats

/-- The product of a value and an integer. -/
def scale (k : Int) : Value → Except Fault Value
  | bool b => .ok (int (if b then k else 0))
  | int n | intMember _ n => .ok (int (n * k))
  | float x => (scaledFloat x k).map float
  | text s | textMember _ s => (repeated s k).map text
  | decimal d => ((d.scale k).mapError .signalled).map decimal
  | ratio q => .ok (ratio (q * (k : Rat)))
  | duration d => durationOf (d.microseconds * k)
  | v => .error (.noProduct v.typePath)

end SheetExport.Value
