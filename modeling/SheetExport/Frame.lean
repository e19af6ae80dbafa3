/-
**Rows as a frame of named, typed columns.**

The columns of a frame have distinct names, which `distinctNames` makes from the headers, and a type
that their first value other than null decides.
-/

import SheetExport.Value.Cell

namespace SheetExport

/-- The name of a header in its `k`-th attempt at being distinct. -/
def numberedName (header : String) (k : Nat) : String := header ++ "__" ++ toString k

/-- A header if it is free, else the first free name with a number from two on. -/
def freshName (taken : List String) (header : String) : String :=
  if taken.contains header then
    (((List.range (taken.length + 1)).map fun k => numberedName header (k + 2)).find?
      (!taken.contains ·)).getD header
  else header

/-- Distinct names for headers, in order. -/
def distinctNames (headers : List String) : List String :=
  headers.foldl (fun taken header => taken ++ [freshName taken header]) []

/-- A table of values with a name and a type for each column. -/
structure Frame where
  names : List String
  types : List String
  rows : List (List CellValue)

/-- The name of the type of a column that holds a value; a null decides nothing. -/
def CellValue.columnType? : CellValue → Option String
  | .null => none
  | .bool _ => some "Boolean"
  | .int _ => some "Int64"
  | .float _ => some "Float64"
  | .text _ => some "String"
  | .date _ => some "Date"
  | .dateTime _ => some "Datetime(time_unit='us', time_zone=None)"
  | .time _ => some "Time"

/-- The type of the column at a position. -/
def columnTypeAt (rows : List (List CellValue)) (position : Nat) : String :=
  (rows.findSome? fun row => row[position]?.bind CellValue.columnType?).getD "Null"

/-- The frame of rows under headers. -/
def Frame.ofRows (headers : List String) (rows : List (List CellValue)) : Frame :=
  ⟨distinctNames headers, (List.range headers.length).map (columnTypeAt rows), rows⟩

end SheetExport
