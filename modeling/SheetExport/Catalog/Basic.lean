/-
**The catalog: everything derived from declarations, made once.**

A catalog keeps the styles in use, the compiled conditions, the resolved sheets and their splits,
each under the class or text that identifies it. What is kept is made at its first use; what fails
leaves nothing behind. `Catalog.clear` forgets all of it. Every object gets a stamp, which tells it
from a later object for the same key.
-/

import SheetExport.Cache
import SheetExport.Failure

namespace SheetExport

/-- The condition that a value writes, which must be a text. A mistake at a position shows the text
with its label. -/
def Condition.ofValue (v : Value) : Except Failure Condition :=
  match v.textual?, v.display with
  | some source, _ =>
    (parse source).mapError fun e =>
      .condition (if e.mistake.position.isSome then { e with label := v.label? } else e) []
  | none, .ok expression =>
    .error (.condition { mistake := ⟨.emptyExpression, none⟩, expression } [])
  | none, .error fault => .error (.fault fault)

/-- An object and its stamp. -/
structure Stamped (α : Type) where
  stamp : Nat
  value : α

/-- What a user is warned of. -/
inductive Warning
  | unresolvedTypes (type : String) (defect : Annotation.Defect)
  | orderIgnored (sheet key : String) (declared kept : Option Int)
  | ordersCollide (sheet : String) (orders : List Int) (types : List String)
  | sheetRenamed (declared written : String)
deriving Repr, DecidableEq

/-- An order, or the word for none. -/
def orderText : Option Int → String
  | some order => toString order
  | none => "None"

/-- The wording of a warning. -/
def Warning.text : Warning → String
  | unresolvedTypes type defect =>
    "Cannot resolve field annotations of " ++ type ++ " (" ++ defect.message ++
      "); using the raw dataclass field types."
  | orderIgnored sheet key declared kept =>
    "Sheet " ++ Text.quoted sheet ++ ": source " ++ Text.quoted key ++ " declares order " ++
      orderText declared ++ ", keeping " ++ orderText kept ++ " from the first source"
  | ordersCollide sheet orders types =>
    Failure.sharedOrders sheet orders types "collide across" ++
      "; laying columns out per source in order"
  | sheetRenamed declared written =>
    "Sheet name " ++ Text.quoted declared ++ " written as " ++ Text.quoted written

/-- A list without elements that are equal to the one before them. -/
def withoutRepeats : List String → List String
  | a :: b :: rest => if a = b then withoutRepeats (b :: rest) else a :: withoutRepeats (b :: rest)
  | short => short

/-- The texts of warnings; equal ones in a row count once. -/
def Warning.texts (warnings : List Warning) : List String :=
  withoutRepeats (warnings.map Warning.text)

/-- The catalog, with the warnings so far and how often each style was configured. -/
structure Catalog where
  styles : Cache ClassKey Style
  conditions : Cache String (Stamped Condition)
  sheets : Cache ClassKey (Stamped Sheet)
  splits : Cache ClassKey (Stamped (List (String × Sheet)))
  attempts : List (ClassKey × Nat)
  nextStamp : Nat
  warnings : List Warning

/-- Computations on a catalog that may fail. What was kept before a failure stays. -/
abbrev CatalogM := ExceptT Failure (StateM Catalog)

namespace Catalog

/-- The catalog in which nothing was made yet. -/
def empty : Catalog := ⟨.empty, .empty, .empty, .empty, [], 0, []⟩

/-- Forgets everything that was made. -/
def clear (c : Catalog) : Catalog :=
  { c with styles := .empty, conditions := .empty, sheets := .empty, splits := .empty }

/-- Warns of something. -/
def warn (w : Warning) : CatalogM Unit := modify fun c => { c with warnings := c.warnings ++ [w] }

/-- A new object with the next stamp. -/
def stamp {α : Type} (a : α) : CatalogM (Stamped α) := do
  let c ← get
  set { c with nextStamp := c.nextStamp + 1 }
  return ⟨c.nextStamp, a⟩

/-- A part of the catalog that can be read and replaced. -/
structure Shelf (κ β : Type) where
  read : Catalog → Cache κ β
  write : Cache κ β → Catalog → Catalog

/-- The styles. -/
def styleShelf : Shelf ClassKey Style := ⟨styles, fun s c => { c with styles := s }⟩

/-- The conditions. -/
def conditionShelf : Shelf String (Stamped Condition) :=
  ⟨conditions, fun s c => { c with conditions := s }⟩

/-- The resolved sheets. -/
def sheetShelf : Shelf ClassKey (Stamped Sheet) := ⟨sheets, fun s c => { c with sheets := s }⟩

/-- The splits. -/
def splitShelf : Shelf ClassKey (Stamped (List (String × Sheet))) :=
  ⟨splits, fun s c => { c with splits := s }⟩

/-- What a shelf keeps for a key, made if there is nothing yet. -/
def once {κ β : Type} [DecidableEq κ] (shelf : Shelf κ β) (key : κ) (make : CatalogM β) :
    CatalogM β := do
  match (shelf.read (← get)).get? key with
  | some kept => return kept
  | none =>
    let made ← make
    let (kept, cache) := (shelf.read (← get)).publish key made
    modify (shelf.write cache)
    return kept

/-! ### Styles and conditions -/

/-- Configures a style once more. -/
def makeStyle (c : StyleClass) : CatalogM Style := do
  let attempt := ((← get).attempts.lookup c.key).getD 0 + 1
  modify fun k => { k with attempts := (c.key, attempt) :: k.attempts.filter (·.1 ≠ c.key) }
  match c.configure attempt with
  | .error defect => throw (.style defect)
  | .ok spec =>
    let made ← stamp spec
    return ⟨made.stamp, c.name, spec⟩

/-- The style in use for a class. -/
def style (c : StyleClass) : CatalogM Style := once styleShelf c.key (makeStyle c)

/-- The condition that a value writes, made anew. -/
def compileAnew (v : Value) : CatalogM (Stamped Condition) := do
  stamp (← (Condition.ofValue v : Except _ _))

/-- The condition that a value writes, kept under its text. -/
def compile (v : Value) : CatalogM (Stamped Condition) := do
  match v with
  | .decimal (.undefined _ true _) => throw (.fault .unusableKey)
  | _ =>
    match v.textual? with
    | some source => once conditionShelf source (compileAnew v)
    | none => compileAnew v

/-! ### Precedence of styles and widths -/

/-- The style of a column's header: its own, else the sheet's, else the default. -/
def headerStyle (column : Option ColumnSpec) (sheet : SheetSpec) : CatalogM Style :=
  match column.bind ColumnSpec.headerStyle, sheet.headerStyle with
  | some c, _ => style c
  | none, some c => style c
  | none, none => style .header

/-- The style of a column's cells: its own, else the sheet's, else the default of its kind. -/
def columnStyle (column : Option ColumnSpec) (sheet : SheetSpec) (kind : FieldKind) :
    CatalogM Style :=
  match column.bind ColumnSpec.columnStyle, sheet.columnStyle with
  | some c, _ => style c
  | none, some c => style c
  | none, none => style (if kind = .numeric then .number else .column)

/-- The style of the label above a column: its own, else that of the column's header. -/
def mergeHeaderStyle (column : Option ColumnSpec) (sheet : SheetSpec) : CatalogM Style :=
  match column.bind ColumnSpec.mergeHeaderStyle with
  | some c => style c
  | none => headerStyle column sheet

/-- The width of columns for which nothing declares one. -/
def defaultWidth : Int := 12

/-- The width of a column: as declared, else what its style asks for, else the default. -/
def width (declared : Int) (style : Style) : Int :=
  if declared ≠ 0 then (if declared < 0 then SheetExport.autoWidth else declared)
  else if style.spec.autoWidth then SheetExport.autoWidth
  else if 0 < style.spec.width then style.spec.width
  else defaultWidth

/-- The rules of declarations, compiled one after the other, in evaluation order. -/
def compileRules (condition : Value → CatalogM (Stamped Condition)) (specs : List RuleSpec) :
    CatalogM (List StyleRule) := do
  let rules ← specs.mapM fun spec => do
    let condition ← condition spec.condition
    let chosen ← style spec.style
    return (⟨condition.value, chosen, spec.priority⟩ : StyleRule)
  return inEvaluationOrder rules

end Catalog

end SheetExport
