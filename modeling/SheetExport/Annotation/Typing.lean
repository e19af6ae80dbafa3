/-
**Types made of other types.**

What stands where a type has to is made one by `asType`: the absent value becomes its class, and a
text a reference to the type that it writes. From types come unions (`unionOf`, `optional`), types
with notes (`annotate`), and the alternatives of the operator `|` (`either`), which are checked only
where a type is more than a class or a list of something.
-/

import SheetExport.Annotation.Defect
import SheetExport.Annotation.Shown
import SheetExport.Annotation.Parser

namespace SheetExport.Annotation

/-- A result, or what is wrong. -/
abbrev Result := Except Defect

/-- Fails with a misuse. -/
def misused {α : Type} (m : Misuse) : Result α := .error (.misuse m)

/-- A result of values. -/
def ofValues {α : Type} (x : Except Fault α) : Result α := x.mapError Defect.ofFault

/-- The text of a meaning as it is written in code. -/
def shownText (m : Meaning) : Result String := ofValues m.shown

/-- The text of a meaning. -/
def displayText (m : Meaning) : Result String := ofValues m.display

/-- The expression that a text writes. -/
def readText (text : String) : Result Expression :=
  if text.isEmpty then .error (.noIndex "string")
  else if text.contains (Char.ofNat 0) then
    .error (.invalid "source code string cannot contain null bytes")
  else
    match Expression.ofText? text with
    | some e => .ok e
    | none => .error (.malformed text)

/-- A reference to the type that a text writes. -/
def referTo (text : String) : Result Meaning := (readText text).map fun _ => .reference text

/-- A meaning as a type. The rule says what is asked for. -/
def asType (rule : String) (m : Meaning) : Result Meaning :=
  match m, m.text? with
  | .absent, _ => .ok (.named FieldType.noneClass)
  | _, some s => referTo s
  | .form f, _ => misused (.plainForm f.shown)
  | .tuple items, _ =>
    (shownText (.tuple items)).bind fun shown => misused (.notAType rule shown)
  | other, none => .ok other

/-! ### Unions -/

/-- The members of a union, or the type alone. -/
def alternatives : Meaning → List Meaning
  | .union _ members => members
  | m => [m]

/-- The union of types: flat, without duplicates, and one type alone is no union. -/
def uniteTypes (types : List Meaning) : Result Meaning :=
  let members := types.flatMap alternatives
  match Meaning.unhashableIn? members with
  | some type => misused (.unhashable type)
  | none =>
    match Meaning.distinct members with
    | [only] => .ok only
    | several => .ok (.union false several)

/-- The union of meanings, each of which has to be a type. -/
def unionOf (meanings : List Meaning) : Result Meaning :=
  if meanings.isEmpty then misused .emptyUnion
  else (meanings.mapM (asType "Union[arg, ...]: each arg must be a type.")).bind uniteTypes

/-- The type that also admits the absent value. -/
def optional (m : Meaning) : Result Meaning :=
  (asType (Form.optional.shown ++ " requires a single type.") m).bind fun type =>
    unionOf [type, .named FieldType.noneClass]

/-- A meaning that may stand in a plain union. -/
def isPlain : Meaning → Bool
  | .absent | .named _ | .applied .. | .union true _ => true
  | _ => false

/-- A type that is more than a class, or a form. -/
def isChecked : Meaning → Bool
  | .form _ | .reference _ | .union false _ | .annotated .. => true
  | _ => false

/-- The plain union of meanings: flat and without duplicates. -/
def plainUnion (meanings : List Meaning) : Meaning :=
  let ofAbsent := fun m => match m with
    | .absent => .named FieldType.noneClass
    | other => other
  match Meaning.distinct ((meanings.map ofAbsent).flatMap alternatives) with
  | [only] => only
  | several => .union true several

/-- What does not combine by an operator. -/
def unsupported {α : Type} (operator : String) (left right : Meaning) : Result α :=
  misused (.noOperation operator left.typeName right.typeName)

/-- One type or the other. -/
def either (left right : Meaning) : Result Meaning :=
  match left, right with
  | .absent, .absent => unsupported "|" left right
  | _, _ =>
    if isPlain left && isPlain right then .ok (plainUnion [left, right])
    else if isChecked left || isChecked right then unionOf [left, right]
    else unsupported "|" left right

/-! ### Notes -/

/-- Belongs to a module, which a type with notes needs. -/
def hasModule (m : Meaning) : Bool :=
  match m with
  | .value v =>
    match v with
    | .decimal _ | .ratio _ | .quantity .. | .object _ | .member .. | .intMember ..
    | .textMember .. | .code .. => true
    | _ => false
  | .bytes _ | .tuple _ | .collection .. | .frozen _ | .range .. | .slice .. | .view ..
  | .stream .. | .generator .. | .made .. | .descriptor .. => false
  | .labelled type .. => type = "DecimalTuple"
  | .method .. => m.typeName ≠ "method-wrapper"
  | .other type .. => type = "function"
  | _ => true

/-- A type with notes after those it has already. -/
def annotatedWith (notes : List Meaning) (m : Meaning) : Result Meaning :=
  match m with
  | .annotated inner earlier => .ok (.annotated inner (earlier ++ notes))
  | .named ⟨_, _, _, .derived, _, _⟩ => .error (.noSuchName "__module__")
  | other =>
    if hasModule other then .ok (.annotated other notes)
    else .error (.noAttribute other.typeName "__module__")

/-- A type with the notes that follow it in a list. -/
def annotate (meanings : List Meaning) : Result Meaning :=
  match meanings with
  | type :: note :: notes =>
    (asType "Annotated[t, ...]: t must be a type." type).bind (annotatedWith (note :: notes))
  | _ => misused .noNotes

end SheetExport.Annotation
