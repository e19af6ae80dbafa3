/-
**Styles of cells.**

A style is declared as a class, which is its identity; it is constructed and configured at its
first use, and either may fail. What a configured style says is a `StyleSpec`; a `Style` is the
one instance in use for a class, told from later instances of the same class by its stamp.
-/

import SheetExport.Style.Format
import SheetExport.Text.Quoted

namespace SheetExport

/-- What a configured style asks for: a format, a width (zero for none), and fitting to content. -/
structure StyleSpec where
  format : Format
  width : Int
  autoWidth : Bool
deriving DecidableEq

/-- What happens when a style is constructed and configured. -/
inductive StyleBehaviour
  | configures (spec : StyleSpec)
  /-- The constructor takes an argument that has no default. -/
  | needsArgument (name : String)
  | failsToConstruct (message : String)
  | failsToConfigure (message : String)
  /-- Configuring fails the given number of times and works from then on. -/
  | configuresAfter (failures : Nat) (message : String) (spec : StyleSpec)
  /-- Configuring gives something else than a specification. -/
  | configuresTo (typeName : String)
  /-- What is declared is no style at all; messages show it as given. It may be a class, which has
  a name of its own. -/
  | notAStyle (shown : String) (ownName : Option String)

/-- What identifies a class: its name, and a number that tells it from others of the name. The
classes that are always there have the number zero. -/
structure ClassKey where
  name : String
  number : Nat
deriving Repr, DecidableEq

/-- A declared style. Its key identifies it, and the formats of styles derived from it begin with
its base format. -/
structure StyleClass where
  key : ClassKey
  behaviour : StyleBehaviour
  baseFormat : Format

/-- The name of a style. -/
def StyleClass.name (c : StyleClass) : String := c.key.name

/-- The name that a style's class calls itself by; what is no class has none. -/
def StyleClass.ownName? (c : StyleClass) : Option String :=
  match c.behaviour with
  | .notAStyle _ ownName => ownName
  | _ => some c.name

/-- The instance of a style in use. -/
structure Style where
  stamp : Nat
  name : String
  spec : StyleSpec
deriving DecidableEq

/-- Why a style cannot be used. -/
inductive StyleDefect
  | notAStyle (shown : String)
  | needsArgument (style argument : String)
  | failedToConstruct (style message : String)
  | failedToConfigure (style message : String)
  | configuredTo (style typeName : String)
deriving Repr, DecidableEq

/-- The wording of a defect. -/
def StyleDefect.text : StyleDefect → String
  | notAStyle shown => shown ++ " is not a subclass of CellStyle"
  | needsArgument style argument =>
    style ++ " must be constructible without arguments: " ++ style ++
      ".__init__() missing 1 required positional argument: " ++ Text.quoted argument
  | failedToConstruct style message =>
    style ++ " raised during construction: ValueError(" ++ Text.quoted message ++ ")"
  | failedToConfigure style message =>
    style ++ ".configure() failed: RuntimeError(" ++ Text.quoted message ++ ")"
  | configuredTo style typeName =>
    style ++ ".configure() returned " ++ typeName ++ ", expected SpecCellStyle"

/-- The specification that a style gives when it is configured for the `attempt`-th time. -/
def StyleClass.configure (c : StyleClass) (attempt : Nat) : Except StyleDefect StyleSpec :=
  match c.behaviour with
  | .configures spec => .ok spec
  | .needsArgument argument => .error (.needsArgument c.name argument)
  | .failsToConstruct message => .error (.failedToConstruct c.name message)
  | .failsToConfigure message => .error (.failedToConfigure c.name message)
  | .configuresAfter failures message spec =>
    if attempt ≤ failures then .error (.failedToConfigure c.name message) else .ok spec
  | .configuresTo typeName => .error (.configuredTo c.name typeName)
  | .notAStyle shown _ => .error (.notAStyle shown)

/-! ### Stock styles -/

namespace StyleClass

/-- A style that is always there and has the given format. -/
def stocked (name : String) (format : Format) : StyleClass :=
  ⟨⟨name, 0⟩, .configures ⟨format, 0, false⟩, format⟩

/-- The style without any properties. -/
def plain : StyleClass := stocked "CellStyle" .empty

/-- A thin border and vertical centring, common to the default styles. -/
def commonFormat : Format :=
  Format.empty.change [(.border, some (.int 1)), (.valign, some (.text "vcenter"))]

/-- The format of headers. -/
def headerFormat : Format :=
  commonFormat.change [(.bold, some (.bool true)), (.fontSize, some (.int 12)),
    (.align, some (.text "center")), (.bgColor, some (.text "#C0C0C0")), (.pattern, some (.int 1))]

/-- The format of columns that are not numeric. -/
def columnFormat : Format :=
  commonFormat.change [(.fontSize, some (.int 10)), (.align, some (.text "left"))]

/-- The format of numeric columns. -/
def numberFormat : Format :=
  commonFormat.change [(.fontSize, some (.int 10)), (.align, some (.text "right")),
    (.numFormat, some (.text "#,##0_ "))]

/-- The style of headers that declare none. -/
def header : StyleClass := stocked "DefaultHeaderStyle" headerFormat

/-- The style of columns that declare none and are not numeric. -/
def column : StyleClass := stocked "DefaultColumnStyle" columnFormat

/-- The style of numeric columns that declare none. -/
def number : StyleClass := stocked "DefaultNumberStyle" numberFormat

/-- The styles that are always there. -/
def stock : List StyleClass := [plain, header, column, number]

end StyleClass

end SheetExport
