/-
**What a record type declares about its sheet and its columns.**

A schema binds names to field types and to column declarations, and may say which sheet the records
go to. Everything is as declared: styles are not constructed and conditions not compiled yet.
-/

import SheetExport.FieldType.Basic
import SheetExport.Masking
import SheetExport.Style.Basic

namespace SheetExport

/-! ### What records' own code computes -/

/-- The code of a member or of an accessor. -/
inductive Body
  /-- Reads an attribute of the record. -/
  | field (name : String)
  | constant (v : Value)
  /-- An attribute multiplied by an integer. -/
  | times (name : String) (factor : Int)
  /-- The texts of several attributes, joined. -/
  | concat (names : List String)
  | raises (text : String)

/-- The ways in which a parameter takes arguments. -/
inductive ParameterKind
  | positional | variadic | keywordOnly | keywords
deriving Repr, DecidableEq

/-- A parameter of a function. -/
structure Parameter where
  name : String
  kind : ParameterKind
  hasDefault : Bool
deriving Repr, DecidableEq

/-- A parameter that an argument has to be given for. -/
def Parameter.isRequired (p : Parameter) : Bool :=
  !p.hasDefault && (p.kind = .positional || p.kind = .keywordOnly)

/-- Reads the parameters of a function as they are written: `x` or `x=1`, one star before the name
that takes all further arguments and two before the one that takes further keywords. A star alone
begins the parameters that are given by keyword. -/
def Parameter.readAll (keywordOnly : Bool) : List (List Char) → List Parameter
  | [] => []
  | ['*'] :: rest => readAll true rest
  | ('*' :: '*' :: name) :: rest => ⟨String.ofList name, .keywords, false⟩ :: readAll true rest
  | ('*' :: name) :: rest => ⟨String.ofList name, .variadic, false⟩ :: readAll true rest
  | cs :: rest =>
    ⟨String.ofList (cs.takeWhile (· ≠ '=')), if keywordOnly then .keywordOnly else .positional,
      cs.contains '='⟩ :: readAll keywordOnly rest

/-- How a column declares to be read off a record. -/
inductive AccessorSpec
  | member (name : String)
  | function (parameters : List Parameter) (body : Body)
  /-- The text of the record. -/
  | display
  /-- Whether the record counts as true. -/
  | truth

/-! ### Declarations -/

/-- A condition on a cell's value and the style it chooses. -/
structure RuleSpec where
  condition : Value
  style : StyleClass
  priority : Int

/-- The order of columns that declare none: after all others. -/
def unsetOrder : Int := 2147483647

/-- The name of sheets that declare none. -/
def defaultSheetName : String := "Sheet1"

/-- The declaration of a sheet; sheets without an order come first. -/
structure SheetSpec where
  name : String := defaultSheetName
  hasHeader : Bool := true
  order : Option Int := none
  headerStyle : Option StyleClass := none
  columnStyle : Option StyleClass := none
  autoColumn : Bool := false

/-- The declaration of a column. A width of zero is none, a negative one fits to the content. -/
structure ColumnSpec where
  header : String := ""
  order : Int := unsetOrder
  width : Int := 0
  dataFormat : String := ""
  exclude : Bool := false
  sheetName : String := ""
  headerStyle : Option StyleClass := none
  columnStyle : Option StyleClass := none
  mergeHeader : String := ""
  mergeHeaderStyle : Option StyleClass := none
  masking : Masking := .none
  rules : List RuleSpec := []
  accessor : Option AccessorSpec := none

/-- A field, with its column if it declares one, and with what a record has that is not given a
value for it. -/
structure Binding where
  name : String
  type : FieldType := .any
  column : Option ColumnSpec := none
  default : Option Value := none

/-- The fields of a record type and its sheet, if it declares one. -/
structure Schema where
  sheet : Option SheetSpec
  bindings : List Binding

end SheetExport
