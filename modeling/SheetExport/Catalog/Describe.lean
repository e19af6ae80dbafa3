/-
**From declarations to resolved sheets.**

The selected fields of a record type become columns one by one, each with its accessor, kind,
styles, rules and width; then they are sorted by order and their labels are checked, sheet by sheet.
`Catalog.describe` does so once per record type.
-/

import SheetExport.Catalog.Basic

namespace SheetExport

namespace Catalog

/-! ### Schemas -/

/-- The resolved types of the fields by their names, inherited ones first. What one of them makes a
name for, those that follow can use. -/
def resolveTypes (t : RecordType) : Annotation.Result (List (String × FieldType)) :=
  let read := fun a : FieldAnnotation => return (a.name, ← a.type.resolve ⟨t.classes, a.own, false⟩)
  Annotation.Reading.result (t.annotations.mapM read)

/-- The fields with their types resolved, or as declared if there is an expected defect in any of
the types. The last type of a name counts. -/
def resolveBindings (t : RecordType) : CatalogM (List Binding) := do
  match resolveTypes t with
  | .ok types =>
    return t.bindings.map fun b => { b with type := (types.reverse.lookup b.name).getD b.type }
  | .error defect =>
    if !defect.kind.isExpected then throw (.unreadableType defect)
    warn (.unresolvedTypes t.title defect)
    return t.bindings

/-- The schema that a record type declares. -/
def readSchema (t : RecordType) : CatalogM Schema := do
  match t.source with
  | .undeclared => throw (.declaration (.noSchema t.title))
  | .asked m =>
    match t.askSchema? m with
    | none => throw (.declaration (.noSchema t.title))
    | some (.ok v) => throw (.declaration (.wrongSchema t.title v.typeName))
    | some (.error fault) => throw (.fault fault)
  | .schema schema => return schema
  | .sheet spec => return ⟨some spec, ← resolveBindings t⟩

/-- The sheet and the fields that a record type declares. -/
def readSheet (t : RecordType) : CatalogM (SheetSpec × List Binding) := do
  let schema ← readSchema t
  match schema.sheet with
  | some spec => return (spec, schema.bindings)
  | none => throw (.declaration (.noSheet t.title))

/-! ### Columns -/

/-- The fields that are exported from an order on, with their column declarations. -/
def selectColumns (autoColumn : Bool) (position : Int) : List Binding → List (Binding × ColumnSpec)
  | [] => []
  | b :: rest =>
    match b.column with
    | some column =>
      if column.exclude then selectColumns autoColumn position rest
      else (b, column) :: selectColumns autoColumn (position + 1) rest
    | none =>
      if autoColumn then
        (b, { header := b.name, order := position }) :: selectColumns autoColumn (position + 1) rest
      else selectColumns autoColumn position rest

/-- Adds a note to a malformed condition that a computation fails with. -/
def noting {α : Type} (note : String) (x : CatalogM α) : CatalogM α :=
  tryCatch x fun failure => throw (failure.addNote note)

/-- The column of a selected field. -/
def makeColumn (t : RecordType) (sheet : SheetSpec) (b : Binding) (spec : ColumnSpec) :
    CatalogM Column := do
  let header := if spec.header = "" then b.name else spec.header
  match resolveAccessor t b header with
  | .error defect => throw (.ofAccess defect)
  | .ok (accessor, type) =>
    let kind := type.kind
    let cells ← columnStyle spec sheet kind
    let rules ← noting ("while compiling column " ++ Text.quoted header ++ " of " ++ t.title)
      (compileRules compile spec.rules)
    let headers ← headerStyle spec sheet
    let labels ← mergeHeaderStyle spec sheet
    return {
      name := b.name
      header := header
      order := spec.order
      width := width spec.width cells
      kind := kind
      headerStyle := headers
      columnStyle := cells
      mergeHeaderStyle := labels
      accessor := accessor
      dataFormat := spec.dataFormat
      sheetName := spec.sheetName
      masking := some spec.masking
      mergeHeader := spec.mergeHeader
      rules := rules }

/-- Columns by ascending order; columns of one order stay as declared. -/
def sortColumns (columns : List Column) : List Column :=
  columns.mergeSort fun a b => decide (a.order ≤ b.order)

/-- Checks the labels of the columns of each sheet that a type's columns go to. -/
def checkLabels (type : String) (sheet : String) (columns : List Column) : Except Failure Unit :=
  let parts := groupBy (fun c => if c.sheetName = "" then sheet else c.sheetName) columns
  parts.forM fun (name, members) =>
    (checkMergeHeaders members).mapError (.mergeHeader (type ++ " sheet " ++ Text.quoted name))

/-- The columns that a record type exports. -/
def extractColumns (t : RecordType) : CatalogM (SheetSpec × List Column) := do
  let (sheet, bindings) ← readSheet t
  let columns ← (selectColumns sheet.autoColumn 1 bindings).mapM fun (b, spec) =>
    makeColumn t sheet b spec
  if columns.isEmpty then throw (.noColumns t.title)
  let sorted := sortColumns columns
  match checkLabels t.title sheet.name sorted with
  | .error failure => throw failure
  | .ok () => return (sheet, sorted)

/-- The sheet of a record type. -/
def extract (t : RecordType) : CatalogM Sheet := do
  let (sheet, columns) ← extractColumns t
  return ⟨sheet.name, columns, sheet.hasHeader, sheet.order⟩

/-! ### Kept results -/

/-- The sheet of a record type, resolved once. -/
def describe (t : RecordType) : CatalogM (Stamped Sheet) :=
  once sheetShelf t.key do stamp (← extract t)

/-- The sheets that the columns of a record type go to, resolved once. -/
def describeSheets (t : RecordType) : CatalogM (Stamped (List (String × Sheet))) :=
  once splitShelf t.key do
    let sheet ← describe t
    stamp sheet.value.split

end Catalog

end SheetExport
