/-
**The commands and what they show.**

`expr` compiles a condition and shows on which values it holds; a text may write the absent value, a
truth value, an integer or a float, and otherwise stands for itself. `describe` shows the sheets of
a record type, which is named by a module and a path in it. What is shown is a list of calls on a
console.
-/

import SheetExport.Catalog.Describe
import SheetExport.Cli.Arguments
import SheetExport.Cli.Markup
import SheetExport.Number.Written
import SheetExport.Text.Case

namespace SheetExport.Cli

/-! ### Values written on the command line -/

/-- The number that a text writes. -/
def readLiteralNumber? (cs : List Char) : Option Value :=
  match Written.integer? cs with
  | some n => some (.int n)
  | none => (Written.float? cs).map .float

/-- The value that a text writes. -/
def readLiteral (s : String) : Value :=
  let word := String.ofList (Text.lowerWord (Text.strip s.toList))
  if word = "null" ∨ word = "none" then .null
  else if word = "true" then .bool true
  else if word = "false" then .bool false
  else (readLiteralNumber? s.toList).getD (.text s)

/-! ### Shown results -/

/-- A call on a console. -/
inductive ConsoleCall
  | rule (text characters : String)
  | print (text : String)
  | failure (text : String)
  | table (titles : List String) (rows : List (List String))

/-- A module that record types are loaded from, with what it has under names. -/
structure Package where
  name : String
  entries : List (String × Attribute)

/-- Why a record type cannot be loaded. -/
inductive LoadFault
  | malformed (reference : String)
  /-- A module given relative to another one. -/
  | relative (path : String)
  | noModule (name : String)
  | notAPackage (path package : String)
  | notInModule (module name : String)
  /-- Something on the way does not have the next name. -/
  | notFollowed (fault : Fault)
  | notAClass (reference : String)
deriving Repr, DecidableEq

/-- The wording of a fault. -/
def LoadFault.message : LoadFault → String
  | malformed reference => "Expected 'module:Type', got " ++ Text.quoted reference
  | relative path => "the 'package' argument is required to perform a relative import for " ++
      Text.quoted path
  | noModule name => "No module named " ++ Text.quoted name
  | notAPackage path package =>
    "No module named " ++ Text.quoted path ++ "; " ++ Text.quoted package ++ " is not a package"
  | notInModule module name => "module '" ++ module ++ "' has no attribute '" ++ name ++ "'"
  | notFollowed fault => fault.message
  | notAClass reference => Text.quoted reference ++ " is not a class"

/-- What a module has under a name. -/
def Package.find (package : Package) (name : String) : Except LoadFault Attribute :=
  match package.entries.lookup name, name with
  | some found, _ => .ok found
  | none, "__name__" => .ok (.value (.text package.name))
  | none, "__doc__" | none, "__package__" | none, "__loader__" | none, "__spec__" =>
    .ok (.value .null)
  | none, "__dict__" | none, "__annotations__" => .ok (.meaning (.dictionary []))
  | none, _ =>
    (Attribute.ofMeaning name (.module package.name)).mapError fun _ => .notInModule package.name name

/-- What names one after the other lead to. -/
def follow (found : Attribute) (names : List String) : Except LoadFault Attribute :=
  (names.foldlM (Attribute.readShown fun _ => .ok "") found).mapError .notFollowed

/-- The package of a dotted name. -/
def findPackage (packages : List Package) (path : String) : Except LoadFault Package :=
  match path.splitOn "." with
  | [] => .error (.noModule path)
  | "" :: _ => .error (.relative path)
  | first :: rest =>
    let known := if Annotation.moduleNames.contains first then some (Package.mk first []) else none
    match (packages.find? (·.name = first)).or known, rest with
    | none, _ => .error (.noModule first)
    | some package, [] => .ok package
    | some _, next :: _ => .error (.notAPackage (first ++ "." ++ next) first)

/-- The record type of a reference: a module, a colon, and a path of names. -/
def loadType (packages : List Package) (reference : String) : Except LoadFault RecordType :=
  let cs := reference.toList
  let module := String.ofList (cs.takeWhile (· ≠ ':'))
  let path := String.ofList ((cs.dropWhile (· ≠ ':')).drop 1)
  if module = "" ∨ path = "" then .error (.malformed reference)
  else
    match findPackage packages module with
    | .error fault => .error fault
    | .ok package =>
      match path.splitOn "." with
      | [] => .error (.malformed reference)
      | first :: rest =>
        match (package.find first).bind fun found => follow found rest with
        | .error fault => .error fault
        | .ok (.type t) => .ok t
        | .ok (.meaning (.named c)) => .ok (.ofName c.ownName)
        | .ok _ => .error (.notAClass reference)

/-! ### Ends -/

/-- An error that is not reported on the console. -/
inductive Interruption
  | load (fault : LoadFault)
  | failure (f : Failure)

/-- How a command line ends. -/
inductive Outcome
  /-- Without a command. -/
  | exit (e : Exit)
  /-- With what was shown, and whether it failed. -/
  | ran (failed : Bool) (calls : List ConsoleCall)
  | broke (i : Interruption)

/-- The wording of an interruption. -/
def Interruption.message : Interruption → String
  | load fault => fault.message
  | failure f => f.message

/-- A fault that is reported on the console, or not. -/
def LoadFault.outcome (fault : LoadFault) : Outcome :=
  match fault with
  | relative _ => .broke (.load fault)
  | _ => .ran true [.failure fault.message]

/-- A failure that is reported on the console, or not. -/
def failureOutcome (f : Failure) : Outcome :=
  let isReported := match f with
    | .fault fault => fault.kind.isReportable
    | .unreadableType defect => defect.kind.isReportable
    | _ => true
  if isReported then .ran true [.failure f.message] else .broke (.failure f)

/-! ### Commands -/

/-- A heading over a part of what is shown. -/
def heading (text : String) : ConsoleCall := .rule (shown text) "─"

/-- A table of plain texts. -/
def plainTable (titles : List String) (rows : List (List String)) : ConsoleCall :=
  .table titles (rows.map fun row => row.map shown)

/-- The row that a value makes in the table of results. -/
def resultRow (condition : Condition) (given : Option String) : Except Fault (List String) :=
  match given with
  | none => .error (.noAttribute "list" "strip")
  | some s =>
    let v := readLiteral s
    v.literal.map fun text => [text, v.typeName, if condition.holds v then "true" else "false"]

/-- Shows a condition and on which values it holds. -/
def runExpr (expression : String) (values : List (Option String)) : Outcome :=
  match Condition.parse expression with
  | .error e => failureOutcome (.condition e [])
  | .ok condition =>
    let parsed := [heading "Expression", .print condition.text]
    if values.isEmpty then .ran false parsed
    else
      match values.mapM (resultRow condition) with
      | .ok rows => .ran false (parsed ++ [plainTable ["value", "type", "matches"] rows])
      | .error fault => .ran true (parsed ++ [.failure fault.message])

/-- The rules of a column in one text. -/
def rulesText (rules : List StyleRule) : String :=
  "; ".intercalate (rules.map fun rule =>
    rule.condition.source ++ " -> " ++ rule.style.name ++ " (p=" ++ toString rule.priority ++ ")")

/-- The row that a column makes in the table of its sheet. -/
def columnRow (c : Column) : List String :=
  [toString c.order, c.header, c.name, c.kind.name,
    if c.width < 0 then "auto" else toString c.width, c.mergeHeader, c.columnStyle.name,
    rulesText c.rules]

/-- What is shown of a sheet. -/
def showSheet (name : String) (sheet : Sheet) : List ConsoleCall :=
  let order := match sheet.order with
    | some n => toString n
    | none => "unordered"
  let title := "Sheet " ++ Text.quoted name ++ " (order: " ++ order ++ ", header: " ++
    Value.boolText sheet.hasHeader ++ ")"
  let titles := ["order", "header", "field", "kind", "width", "merge", "style", "rules"]
  let layout :=
    if sheet.hasMergeHeader then
      heading "Header layout" ::
        ((planHeader sheet.columns).grid sheet.columns.length).map
          fun row => .print (" | ".intercalate row)
    else []
  .rule (shown title) "=" :: plainTable titles (sheet.columns.map columnRow) :: layout

/-- Shows the sheets of a record type. -/
def runDescribe (packages : List Package) (reference : String) :
    CatalogM (Except LoadFault (List ConsoleCall)) := do
  match loadType packages reference with
  | .error fault => return .error fault
  | .ok type =>
    let sheets ← Catalog.describeSheets type
    return .ok (sheets.value.flatMap fun (name, sheet) => showSheet name sheet)

/-- Runs a command line on a catalog, which tells how often styles were configured before. -/
def run (packages : List Package) (arguments : List String) (catalog : Catalog) :
    Outcome × Catalog :=
  match read arguments with
  | .error exit => (.exit exit, catalog)
  | .ok (.expr expression values) => (runExpr expression values, catalog)
  | .ok (.describe reference) =>
    match (runDescribe packages reference).run.run catalog with
    | (.ok (.ok calls), catalog') => (.ran false calls, catalog')
    | (.ok (.error fault), catalog') => (fault.outcome, catalog')
    | (.error failure, catalog') => (failureOutcome failure, catalog')

end SheetExport.Cli
