/-
**Header rows with labels over groups of columns.**

Columns that share a label form a group, which must cover a contiguous range of orders
(`checkMergeHeaders`); then it is one run of adjacent columns once they are sorted. A header without
labels is one row. With labels there are two: a labelled run has its label above the headers, and a
column without label spans both rows.
-/

import SheetExport.Sheet.Column

namespace SheetExport

/-! ### Runs of labels -/

/-- Adjacent positions with one label, both ends included. -/
structure LabelRun where
  first : Nat
  last : Nat
  label : String
deriving Repr, DecidableEq

/-- The runs of labels from a position on; a position without label is a run of its own. -/
def labelRunsFrom (position : Nat) : List String → List LabelRun
  | [] => []
  | label :: rest =>
    match labelRunsFrom (position + 1) rest with
    | run :: more =>
      if label ≠ "" ∧ run.label = label then ⟨position, run.last, label⟩ :: more
      else ⟨position, position, label⟩ :: run :: more
    | [] => [⟨position, position, label⟩]

/-- The runs of labels. -/
def labelRuns (labels : List String) : List LabelRun := labelRunsFrom 0 labels

/-! ### Contiguity -/

/-- How a group of columns fails to be contiguous. -/
inductive GapReason
  /-- Two columns of the group have the order. -/
  | shared
  /-- No column of the group has the order; another one may. -/
  | missing (least greatest : Int) (header : Option String)
  /-- A column outside the group has the order as well. -/
  | intruder (least greatest : Int) (header : String)
deriving Repr, DecidableEq

/-- A group that is not contiguous, and an order that shows it. -/
structure MergeHeaderGap where
  label : String
  order : Int
  reason : GapReason
deriving Repr, DecidableEq

/-- The wording of a gap in the columns of an owner. -/
def MergeHeaderGap.text (owner : String) (gap : MergeHeaderGap) : String :=
  let subject := "Merge header " ++ Text.quoted gap.label ++
    (if owner = "" then "" else " in " ++ owner)
  let spans := fun (least greatest : Int) =>
    " spans orders " ++ toString least ++ ".." ++ toString greatest ++ " but "
  let foreign := fun (header : String) =>
    "column " ++ Text.quoted header ++ " at order " ++ toString gap.order ++ " is not in the group"
  match gap.reason with
  | .shared =>
    subject ++ " has two columns at order " ++ toString gap.order ++
      "; group orders must be distinct"
  | .missing least greatest none =>
    subject ++ spans least greatest ++ "no group column at order " ++ toString gap.order
  | .missing least greatest (some header) => subject ++ spans least greatest ++ foreign header
  | .intruder least greatest header => subject ++ spans least greatest ++ foreign header

/-- The first element of an ascending list that is equal to its neighbour. -/
def firstRepeated? : List Int → Option Int
  | a :: b :: rest => if a = b then some b else firstRepeated? (b :: rest)
  | _ => none

/-- The first integer missing between two neighbours of an ascending list. -/
def firstMissing? : List Int → Option Int
  | a :: b :: rest => if b = a + 1 then firstMissing? (b :: rest) else some (a + 1)
  | _ => none

/-- What is wrong with the group of a label of at least two columns. -/
def groupGap? (columns members : List Column) (label : String) : Option MergeHeaderGap :=
  let orders := (members.map Column.order).mergeSort fun a b => decide (a ≤ b)
  match orders, orders.getLast? with
  | least :: _ :: _, some greatest =>
    match firstRepeated? orders, firstMissing? orders with
    | some order, _ => some ⟨label, order, .shared⟩
    | none, some order =>
      some ⟨label, order,
        .missing least greatest ((columns.find? (·.order = order)).map Column.header)⟩
    | none, none =>
      (columns.find? fun c => c.mergeHeader ≠ label && least ≤ c.order && c.order ≤ greatest).map
        fun c => ⟨label, c.order, .intruder least greatest c.header⟩
  | _, _ => none

/-- Checks that the columns of each label cover a contiguous range of orders by themselves. -/
def checkMergeHeaders (columns : List Column) : Except MergeHeaderGap Unit :=
  let groups := groupBy Column.mergeHeader (columns.filter (·.mergeHeader ≠ ""))
  match groups.findSome? fun (label, members) => groupGap? columns members label with
  | some gap => .error gap
  | none => .ok ()

/-! ### Layout -/

/-- A cell of a header, with the rows and columns that it covers, ends included. -/
structure HeaderCell where
  firstRow : Nat
  lastRow : Nat
  firstColumn : Nat
  lastColumn : Nat
  text : String
  style : Style

/-- Covers more than one row or column. -/
def HeaderCell.isMerged (c : HeaderCell) : Bool :=
  c.firstRow ≠ c.lastRow || c.firstColumn ≠ c.lastColumn

/-- Covers more than one row of a single column. -/
def HeaderCell.isVertical (c : HeaderCell) : Bool :=
  c.firstRow ≠ c.lastRow && c.firstColumn = c.lastColumn

/-- The rows of a header. -/
structure HeaderPlan where
  rows : Nat
  cells : List HeaderCell

/-- The header cell of a column alone. -/
def columnCell (firstRow lastRow : Nat) (position : Nat × Column) : HeaderCell :=
  ⟨firstRow, lastRow, position.1, position.1, position.2.header, position.2.headerStyle⟩

/-- The header cells of the columns of a run. -/
def runCells (columns : List (Nat × Column)) (run : LabelRun) : List HeaderCell :=
  let members := (columns.drop run.first).take (run.last + 1 - run.first)
  if run.label = "" then members.map (columnCell 0 1)
  else
    match members with
    | [] => []
    | (_, c) :: _ =>
      ⟨0, 0, run.first, run.last, run.label, c.mergeHeaderStyle⟩ :: members.map (columnCell 1 1)

/-- The header of columns. -/
def planHeader (columns : List Column) : HeaderPlan :=
  let numbered := (List.range columns.length).zip columns
  if columns.any (·.mergeHeader ≠ "") then
    ⟨2, (labelRuns (columns.map Column.mergeHeader)).flatMap (runCells numbered)⟩
  else ⟨1, numbered.map (columnCell 0 0)⟩

/-- The texts of a header by row and column; a merged cell has its text at its first position. -/
def HeaderPlan.grid (plan : HeaderPlan) (width : Nat) : List (List String) :=
  (List.range plan.rows).map fun row =>
    (List.range width).map fun column =>
      match plan.cells.reverse.find? fun c => c.firstRow = row && c.firstColumn = column with
      | some c => c.text
      | none => ""

/-- The borders of a header cell: one or zero for each side. -/
structure Border where
  top : Nat
  bottom : Nat
  left : Nat
  right : Nat
deriving Repr, DecidableEq

/-- The borders that draw every vertical cell as one box, by row and column. -/
def HeaderPlan.borders (plan : HeaderPlan) : List (Nat × Nat × Border) :=
  (plan.cells.filter HeaderCell.isVertical).flatMap fun c =>
    ((List.range (c.lastRow + 1)).drop c.firstRow).map fun row =>
      (row, c.firstColumn,
        ⟨if row = c.firstRow then 1 else 0, if row = c.lastRow then 1 else 0, 1, 1⟩)

end SheetExport
