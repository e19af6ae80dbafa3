/-
**Types of record fields.**

A field is declared with a class, a union of types, a type with notes, a list of a type, or a text
that names a type and is not resolved yet. Unions are flat and without duplicates
(`FieldType.unionOf`), and notes of a type with notes are collected in one place
(`FieldType.annotatedWith`). `FieldType.kind` tells the kinds of column apart: numeric, temporal and
other; an optional type has the kind of the type it wraps (`FieldType.unwrap`).
-/

namespace SheetExport

/-- The kinds of columns. -/
inductive FieldKind
  | numeric | temporal | other
deriving Repr, DecidableEq

/-- The name of a kind. -/
def FieldKind.name : FieldKind → String
  | numeric => "numeric"
  | temporal => "temporal"
  | other => "other"

/-- The kind of a name; other than numeric and temporal if it is the name of neither. -/
def FieldKind.ofName (s : String) : FieldKind :=
  ([numeric, temporal].find? (·.name = s)).getD other

/-- How a class is made, which shows in messages about it. -/
inductive ClassMake
  /-- Known by its module in every message. -/
  | native
  | ordinary
  /-- Made where it is needed, so that it knows no module of its own. -/
  | derived
  | abstract
  | enumeration
  /-- The class that stands for all types. -/
  | universal
deriving Repr, DecidableEq

/-- A class, with the kind of its instances. -/
structure KnownClass where
  name : String
  kind : FieldKind
  /-- The module of the class; empty for the classes that need none. -/
  module : String
  make : ClassMake
  /-- The names of the classes that it is derived from, nearest first, apart from that of all
  values. -/
  parents : List String
  /-- The names of the kinds of numbers that its instances count as, though it is not derived from
  them. -/
  countsAs : List String
deriving Repr, DecidableEq

namespace KnownClass

/-- The kinds of numbers that integers, real numbers and all numbers count as. -/
def wholeNumbers : List String := ["Integral", "Rational", "Real", "Complex", "Number"]

/-- A class that needs no module, of values that are no numbers. -/
def everyday (name : String) : KnownClass := ⟨name, .other, "", .native, [], []⟩

/-- A class of a module, of values that are no numbers. -/
def ofModule (module name : String) : KnownClass := ⟨name, .other, module, .native, [], []⟩

/-- A class of temporal values. -/
def temporal (name : String) (parents : List String) : KnownClass :=
  ⟨name, .temporal, "datetime", .native, parents, []⟩

/-- A class of real numbers that is declared where types are. -/
def ofQuantities (name : String) : KnownClass :=
  ⟨name, .numeric, "__main__", .ordinary, [], wholeNumbers.drop 2⟩

/-- An enumeration. -/
def ofMembers (name : String) : KnownClass :=
  ⟨name, .other, "__main__", .enumeration, ["Enum"], []⟩

/-- An enumeration of integers. -/
def ofIntegers (name : String) : KnownClass :=
  ⟨name, .numeric, "__main__", .enumeration, ["IntEnum", "int", "ReprEnum", "Enum"], wholeNumbers⟩

/-- An enumeration of texts. -/
def ofTexts (name : String) : KnownClass :=
  ⟨name, .other, "__main__", .enumeration, ["StrEnum", "str", "ReprEnum", "Enum"], []⟩

end KnownClass

/-- A type of a field. -/
inductive FieldType
  /-- A class, with the kind of its instances. -/
  | named (name : String) (kind : FieldKind)
  | union (members : List FieldType)
  | annotated (inner : FieldType) (notes : List String)
  | list (item : FieldType)
  /-- A text that stands for a type and was not resolved. -/
  | unresolved (text : String)
  /-- What stands for a type and is none of the above: its text, and the kind of its instances. -/
  | object (shown : String) (kind : FieldKind)
deriving Repr, Inhabited

namespace FieldType

/-! ### Known classes -/

/-- The classes that can be named where a type is declared. -/
abbrev Namespace := List KnownClass

/-- The classes known everywhere; truth values, complex numbers and durations are neither numeric
nor temporal. -/
def standardClasses : Namespace :=
  let wholes := KnownClass.wholeNumbers
  [⟨"int", .numeric, "", .native, [], wholes⟩, ⟨"float", .numeric, "", .native, [], wholes.drop 2⟩,
    .everyday "str", ⟨"bool", .other, "", .native, ["int"], wholes⟩,
    ⟨"complex", .other, "", .native, [], wholes.drop 3⟩, .everyday "bytes", .everyday "object",
    ⟨"Any", .other, "typing", .universal, [], []⟩,
    ⟨"Decimal", .numeric, "decimal", .native, [], wholes.drop 4⟩,
    ⟨"Fraction", .numeric, "fractions", .abstract, wholes.drop 1, []⟩,
    .temporal "date" [], .temporal "datetime" ["date"], .temporal "time" [],
    .ofModule "datetime" "timedelta",
    ⟨"Real", .numeric, "numbers", .abstract, wholes.drop 3, []⟩,
    ⟨"Number", .other, "numbers", .abstract, [], []⟩,
    ⟨"Integral", .numeric, "numbers", .abstract, wholes.drop 1, []⟩]

/-- The class of the absent value. -/
def noneClass : KnownClass := .everyday "None"

/-- The class of a name. -/
def ofName? (classes : Namespace) (name : String) : Option FieldType :=
  ((noneClass :: classes).find? (·.name = name)).map fun c => named c.name c.kind

/-- The type of the absent value. -/
def none : FieldType := named "None" .other

/-- The type of all values. -/
def any : FieldType := named "Any" .other

/-- Is the type of the absent value. -/
def isNone : FieldType → Bool
  | named name _ => name = "None"
  | _ => false

/-! ### Building types -/

mutual

/-- Equality of types; the members of a union are compared without regard to their order. -/
def same : FieldType → FieldType → Bool
  | named first _, other => match other with
    | named second _ => first = second
    | _ => false
  | union members, other => match other with
    | union others => eachIn members others && others.all (isAmong members)
    | _ => false
  | annotated inner notes, other => match other with
    | annotated inner' notes' => same inner inner' && notes = notes'
    | _ => false
  | list item, other => match other with
    | list item' => same item item'
    | _ => false
  | unresolved text, other => match other with
    | unresolved text' => text = text'
    | _ => false
  | object shown _, other => match other with
    | object shown' _ => shown = shown'
    | _ => false

/-- Every one of the first types is among the second ones. -/
def eachIn : List FieldType → List FieldType → Bool
  | [], _ => true
  | t :: rest, others => others.any (same t) && eachIn rest others

/-- A type is among given ones. -/
def isAmong : List FieldType → FieldType → Bool
  | [], _ => false
  | t :: rest, other => same t other || isAmong rest other

end

/-- The members of a union, or the type alone. -/
def alternatives : FieldType → List FieldType
  | union members => members
  | t => [t]

/-- The types without those that are equal to an earlier one. -/
def distinct (types : List FieldType) : List FieldType :=
  types.foldl (fun kept t => if kept.any (same · t) then kept else kept ++ [t]) []

/-- The union of types: flat, without duplicates, and one type alone is no union. -/
def unionOf (types : List FieldType) : FieldType :=
  match distinct (types.flatMap alternatives) with
  | [only] => only
  | members => union members

/-- The type that also admits the absent value. -/
def optional (t : FieldType) : FieldType := unionOf [t, none]

/-- A type with notes after those it has already. -/
def annotatedWith (notes : List String) : FieldType → FieldType
  | annotated inner earlier => annotated inner (earlier ++ notes)
  | t => annotated t notes

/-! ### Kinds -/

/-- The one type in a list that is not the type of the absent value. -/
def onlyProper? (members : List FieldType) : Option FieldType :=
  match members.filter (!·.isNone) with
  | [only] => some only
  | _ => Option.none

/-- The one type in a list that is not the type of the absent value is a member of the list. -/
theorem sizeOf_lt_of_onlyProper? {members : List FieldType} {t : FieldType}
    (found : onlyProper? members = some t) : sizeOf t < sizeOf (union members) := by
  unfold onlyProper? at found
  split at found
  · rename_i only remaining
    simp only [Option.some.injEq] at found
    subst found
    have member : only ∈ members :=
      (List.mem_filter.mp (by rw [remaining]; exact List.mem_singleton.mpr rfl)).1
    have := List.sizeOf_lt_of_mem member
    simp only [union.sizeOf_spec]
    omega
  · simp at found

/-- The type inside notes and inside a union with the absent value alone. -/
def unwrap (t : FieldType) : FieldType :=
  match t with
  | annotated inner _ => unwrap inner
  | union members =>
    match _ : onlyProper? members with
    | some only => unwrap only
    | Option.none => union members
  | other => other
termination_by sizeOf t
decreasing_by
  · simp only [annotated.sizeOf_spec]; omega
  · exact sizeOf_lt_of_onlyProper? ‹_›

/-- The kind of a class; other for what is no single class. -/
def classKind : FieldType → FieldKind
  | named _ kind | object _ kind => kind
  | _ => .other

/-- Is numeric once unwrapped. -/
def isNumeric (t : FieldType) : Bool := t.unwrap.classKind = .numeric

/-- Is temporal once unwrapped. -/
def isTemporal (t : FieldType) : Bool := t.unwrap.classKind = .temporal

/-- The kind of column that a field of the type makes. -/
def kind (t : FieldType) : FieldKind :=
  if t.isNumeric then .numeric else if t.isTemporal then .temporal else .other

/-! ### Notes -/

mutual

/-- The type without notes. -/
def withoutNotes : FieldType → FieldType
  | named name kind => named name kind
  | union members => unionOf (withoutNotesAll members)
  | annotated inner _ => withoutNotes inner
  | list item => list (withoutNotes item)
  | unresolved text => unresolved text
  | object shown kind => object shown kind

/-- The types without notes. -/
def withoutNotesAll : List FieldType → List FieldType
  | [] => []
  | t :: rest => withoutNotes t :: withoutNotesAll rest

end

end FieldType

end SheetExport
