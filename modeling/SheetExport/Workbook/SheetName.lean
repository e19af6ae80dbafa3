/-
**Names of worksheets.**

A declared name loses what a worksheet's name may not contain and is cut to the length allowed
(`cleanSheetName`). Within one workbook a name that was used before, in whatever case, gets a number
(`uniqueSheetName`).
-/

import SheetExport.Text.Ranges
import SheetExport.Text.Case

namespace SheetExport

/-- The greatest length of a worksheet's name. -/
def maxSheetNameLength : Nat := 31

/-- The characters that a worksheet's name may not contain. -/
def illegalInSheetName : List Char := [':', '\\', '/', '<', '>', '"', '?', '*', '|', '[', ']']

/-- A text without pairs of points. -/
def dropPointPairs : List Char → List Char
  | '.' :: '.' :: rest => dropPointPairs rest
  | c :: rest => c :: dropPointPairs rest
  | [] => []

/-- An ASCII control character. -/
def isControl (c : Char) : Bool := c.toNat < 32 || c.toNat = 127

/-- A declared name as a worksheet's name, if anything is left of it. -/
def cleanSheetName (declared : List Char) : Option (List Char) :=
  let legal := (dropPointPairs (Text.strip declared)).filter (!illegalInSheetName.contains ·)
  let name := Text.strip (legal.filter (!isControl ·))
  if name.isEmpty then none else some (name.take maxSheetNameLength)

/-- The `k`-th name derived from a name that is in use. -/
def numberedSheetName (name : List Char) (k : Nat) : List Char :=
  name.take (maxSheetNameLength - 4) ++ "__".toList ++ (toString k).toList

/-- A name if it is free, else the first free name with a number from two on. -/
def uniqueSheetName (used : List (List Char)) (name : List Char) : List Char :=
  if used.contains (Text.foldCase name) then
    (((List.range (used.length + 1)).map fun k => numberedSheetName name (k + 2)).find?
      fun candidate => !used.contains (Text.foldCase candidate)).getD name
  else name

/-- The unique names for names in turn. -/
def uniqueSheetNames (names : List (List Char)) : List (List Char) :=
  (names.foldl (fun (used, result) name =>
    let unique := uniqueSheetName used name
    (Text.foldCase unique :: used, unique :: result)) ([], [])).2.reverse

end SheetExport
