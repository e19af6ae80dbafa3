/-
**Everything that can go wrong, with its wording.**

Failures of the library itself carry a code and a summary; the message of such a failure is
`[code] summary - detail`. Faults of records' own code, and misuse of streams and groups, have
messages of their own.
-/

import SheetExport.Sheet.Header

namespace SheetExport

/-- The kinds of failures that have a code. -/
inductive FailureCode
  | emptyData | style | condition | metadata | access | sheetName | orderConflict | duplicateOrder
  | noColumns | mergeHeader | tooManyColumns
deriving Repr, DecidableEq

/-- The code of a kind. -/
def FailureCode.code : FailureCode → String
  | emptyData => "E001"
  | style => "E006"
  | condition => "E008"
  | metadata => "E009"
  | access => "E010"
  | sheetName => "E013"
  | orderConflict => "E014"
  | duplicateOrder => "E019"
  | noColumns => "E021"
  | mergeHeader => "E022"
  | tooManyColumns => "E023"

/-- The summary of a kind. -/
def FailureCode.summary : FailureCode → String
  | emptyData => "Data source yielded no records"
  | style => "Cell style could not be constructed"
  | condition => "Malformed conditional style expression"
  | metadata => "Sheet metadata could not be extracted"
  | access => "Column accessor is unusable"
  | sheetName => "Invalid sheet name"
  | orderConflict => "Column orders overlap within one sheet"
  | duplicateOrder => "Duplicate sheet order"
  | noColumns => "Record type exports no columns"
  | mergeHeader => "Merge header group is not contiguous"
  | tooManyColumns => "Sheet has more columns than Excel allows"

/-- A failure. -/
inductive Failure
  | emptySource (key : String)
  | style (defect : StyleDefect)
  | condition (error : Condition.SyntaxError) (notes : List String)
  | declaration (defect : DeclarationDefect)
  | access (defect : AccessorDefect)
  | unreadableType (defect : Annotation.Defect)
  | sheetName (name : String)
  | orderConflict (sheet : String) (orders : List Int) (types : List String)
  | duplicateOrder (order : Int) (first second : String)
  | noColumns (type : String)
  | mergeHeader (owner : String) (gap : MergeHeaderGap)
  | tooManyColumns (sheet : String) (count limit : Nat)
  /-- A group whose entries were taken is given another one. -/
  | groupConsumed
  /-- The entries of a group are taken again. -/
  | groupTaken
  | noEntries (sheet : String)
  /-- A stream ended while it was being read for a row. -/
  | endedWithinRow
  /-- A stream has no further record. -/
  | exhausted
  | unknownMasking (name : String)
  | fault (f : Fault)

namespace Failure

/-- Integers as a list in brackets. -/
def listText (ns : List Int) : String := "[" ++ ", ".intercalate (ns.map toString) ++ "]"

/-- The record types whose orders collide, and the orders. -/
def sharedOrders (sheet : String) (orders : List Int) (types : List String)
    (verb : String) : String :=
  "Sheet " ++ Text.quoted sheet ++ ": column orders " ++ listText orders ++ " " ++ verb ++ " " ++
    ", ".intercalate types

/-- The code and the detail of a failure, if it has a code. -/
def detail? : Failure → Option (FailureCode × String)
  | emptySource key => some (.emptyData, "Source " ++ Text.quoted key ++ " yielded no records")
  | style defect => some (.style, defect.text)
  | condition error _ => some (.condition, error.detail)
  | declaration defect => some (.metadata, defect.text)
  | access defect => some (.access, defect.text)
  | sheetName name =>
    some (.sheetName, "Sheet name " ++ Text.quoted name ++ " is empty after sanitizing")
  | orderConflict sheet orders types =>
    some (.orderConflict, sharedOrders sheet orders types "are shared by record types")
  | duplicateOrder order first second =>
    some (.duplicateOrder, "Sheet order " ++ toString order ++ " is declared by both " ++
      Text.quoted first ++ " and " ++ Text.quoted second)
  | noColumns type => some (.noColumns, type ++ " declares no exported column")
  | mergeHeader owner gap => some (.mergeHeader, gap.text owner)
  | tooManyColumns sheet count limit =>
    some (.tooManyColumns, "Sheet " ++ Text.quoted sheet ++ " has " ++ toString count ++
      " columns; the limit is " ++ toString limit)
  | _ => none

/-- The message of a failure. -/
def message (f : Failure) : String :=
  match f.detail? with
  | some (code, detail) => "[" ++ code.code ++ "] " ++ code.summary ++ " - " ++ detail
  | none =>
    match f with
    | groupConsumed => "Cannot add entries to a consumed sheet group."
    | groupTaken => "Sheet group rows were already consumed."
    | noEntries sheet => "Sheet group " ++ Text.quoted sheet ++ " has no entries."
    | endedWithinRow => "generator raised StopIteration"
    | unknownMasking name => Text.quoted name ++ " is not a valid EnumMasking"
    | unreadableType defect => defect.message
    | fault f => f.message
    | _ => ""

/-- The failure of an accessor that cannot be used. -/
def ofAccess (defect : AccessorDefect) : Failure :=
  match defect.reason with
  | .unreadableType reason => unreadableType reason
  | _ => access defect

/-- Adds a note to a malformed condition. -/
def addNote (note : String) : Failure → Failure
  | condition error notes => condition error (notes ++ [note])
  | other => other

end Failure

end SheetExport
