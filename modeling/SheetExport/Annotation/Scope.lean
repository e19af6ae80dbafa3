/-
**The names that annotations can use.**

An annotation sees the classes known where its record type is declared and the forms `Optional`,
`Union` and `Annotated`, then what the record type itself has under a name, and then the names that
are known everywhere; loops and functions inside of it may not see the classes. `Scope.find?` looks
names up in this order, those that assignments made first (`Names`). What can change keeps what it
is made of at its place, and so do the names of loops and of functions; `Names.present` gives a
meaning as it is now.
-/

import SheetExport.Annotation.Shown
import Std.Data.HashMap

namespace SheetExport.Annotation

/-! ### Names known everywhere -/

/-- Functions known everywhere. -/
def functionNames : List String :=
  words ("__build_class__ __import__ abs aiter all anext any ascii bin breakpoint callable chr compile delattr dir divmod " ++
    "eval exec format getattr globals hasattr hash hex id input isinstance issubclass iter len " ++
    "locals max min next oct open ord pow print repr round setattr sorted sum vars")

/-- A value of a type, of which only its text is known. -/
def shownValue (type shown : String) : Meaning := .other type shown true

/-- Further values known everywhere, by their types. -/
def everydayValues : List (String × String) := [
  ("Ellipsis", "ellipsis"), ("NotImplemented", "NotImplementedType"), ("copyright", "_Printer"),
  ("credits", "_Printer"), ("license", "_Printer"), ("exit", "Quitter"), ("quit", "Quitter"),
  ("help", "_Helper")]

/-- The class of a name that is known everywhere. -/
def everydayClass? (name : String) : Option KnownClass :=
  let standard := FieldType.standardClasses.find? fun c => c.name = name && c.module = ""
  match errorClass? name, standard with
  | some c, _ | none, some c => some c
  | none, none =>
    if collectionNames.contains name || classNames.contains name then some (.everyday name)
    else none

/-- What a name known everywhere stands for. -/
def everyday? (name : String) : Option Meaning :=
  if name = "None" then some .absent
  else if name = "True" || name = "__debug__" then some (.truth true)
  else if name = "False" then some (.truth false)
  else if functionNames.contains name then some (.routine name)
  else
    match everydayClass? name with
    | some c => some (.named c)
    | none => (everydayValues.lookup name).map fun type => shownValue type name

/-! ### Scopes -/

/-- The names that an annotation can use. -/
structure Scope where
  classes : FieldType.Namespace
  /-- What the record type of the annotation has under a name. -/
  own : List (String × Meaning)
  /-- Loops and functions inside of the annotation see the classes. -/
  sharesClasses : Bool

/-- The names that were made while annotations were read. -/
structure Names where
  /-- Seen by all annotations that follow, like the classes. -/
  shared : List (String × Meaning) := []
  /-- Seen like what the record type has. -/
  own : List (String × Meaning) := []
  /-- Of the loops and the functions that are being gone through, innermost first, with the places
  of what they stand for. -/
  bound : List (String × Nat) := []
  /-- What is at a place, if it is no longer what it was made of. -/
  contents : Std.HashMap Nat (List Meaning) := ∅
  /-- How many places are taken. -/
  places : Nat := 0

/-- What in an annotation an expression is inside of. -/
inductive Enclosure
  | nothing | loop | function
deriving DecidableEq

/-- Where in an annotation an expression stands. -/
structure Place where
  inside : Enclosure := .nothing
  /-- What the names of functions begin with that are made there. -/
  beginning : String := ""

/-- Inside of nothing. -/
def Place.outermost : Place := ⟨.nothing, ""⟩

/-- The place of the parts of a loop with a name. -/
def Place.inLoop (place : Place) (name : String) : Place :=
  ⟨if place.inside = .nothing then .loop else place.inside, place.beginning ++ name ++ "."⟩

/-- The place of the body of a function with a name. -/
def Place.inFunction (title : String) : Place := ⟨.function, title ++ ".<locals>."⟩

/-- The forms that take types. -/
def form? (name : String) : Option Meaning :=
  if name = "Optional" then some (.form .optional)
  else if name = "Union" then some (.form .union)
  else if name = "Annotated" then some (.named annotatedClass)
  else none

/-- What a name stands for where annotations are declared. -/
def Scope.findShared? (scope : Scope) (names : Names) (name : String) : Option Meaning :=
  match names.shared.lookup name, scope.classes.find? (·.name = name) with
  | some m, _ => some m
  | none, some c => some (.named c)
  | none, none => form? name

/-- What a name of a loop or of a function stands for. -/
def Names.bound? (names : Names) (name : String) : Option Meaning :=
  (names.bound.lookup name).bind fun place => names.contents[place]?.bind List.head?

/-- The names with one more of a loop or a function, at a place of its own. -/
def Names.bind (names : Names) (name : String) (m : Meaning) : Names :=
  let place := names.places + 1
  { names with
    bound := (name, place) :: names.bound
    contents := names.contents.insert place [m]
    places := place }

/-- What a name stands for. -/
def Scope.find? (scope : Scope) (names : Names) (place : Place) (name : String) : Option Meaning :=
  let inner := if place.inside = .nothing then none else names.bound? name
  let shared := if place.inside = .nothing || scope.sharesClasses then scope.findShared? names name
    else none
  [inner, shared, names.own.lookup name, scope.own.lookup name, everyday? name].findSome? id

/-- The names after one more was made. -/
def Scope.assign (scope : Scope) (place : Place) (name : String) (m : Meaning) (names : Names) :
    Names :=
  match place.inside, scope.sharesClasses with
  | .function, _ => names.bind name m
  | .loop, false => { names with own := (name, m) :: names.own }
  | _, _ => { names with shared := (name, m) :: names.shared }

/-! ### Changes -/

/-- How deep meanings are looked into for changes. -/
def presentDepth : Nat := 16

/-- A meaning with what changed in it since it was made, down to a depth. -/
def presentWithin (contents : Std.HashMap Nat (List Meaning)) : Nat → Meaning → Meaning
  | 0, m => m
  | depth + 1, m =>
    let one := presentWithin contents depth
    let all := fun items : List Meaning => items.map one
    let current := fun (place : Nat) (items : List Meaning) => all (contents[place]?.getD items)
    match m with
    | .tuple items => .tuple (all items)
    | .labelled type names items => .labelled type names (all items)
    | .collection kind place items => .collection kind place (current place items)
    | .frozen items => .frozen (all items)
    | .view kind place items => .view kind place (current place items)
    | .stream type place items => .stream type place (current place items)
    | .generator type place title source target body names places pending =>
      .generator type place title source target body names places (current place pending)
    | .annotated inner notes => .annotated (one inner) (all notes)
    | .applied c arguments => .applied c (all arguments)
    | .made c arguments => .made c (all arguments)
    | .method owner name => .method (one owner) name
    | m => m

/-- A meaning with what changed in it since it was made. -/
def Names.present (names : Names) (m : Meaning) : Meaning :=
  if names.contents.isEmpty then m else presentWithin names.contents presentDepth m

/-- What gives its items one after the other, with what is left of them. -/
def Meaning.withContents (contents : Std.HashMap Nat (List Meaning)) (m : Meaning) : Meaning :=
  match m with
  | .stream type place items => .stream type place (contents[place]?.getD items)
  | .generator type place title source target body names places pending =>
    .generator type place title source target body names places (contents[place]?.getD pending)
  | m => m

/-- The names after the contents of a place changed. -/
def Names.change (names : Names) (place : Nat) (items : List Meaning) : Names :=
  if place = 0 then names else { names with contents := names.contents.insert place items }

/-- The names with one more place taken, and the place. -/
def Names.takePlace (names : Names) : Nat × Names :=
  (names.places + 1, { names with places := names.places + 1 })

/-- Items that are taken one after the other, at a place of their own if they have none yet. -/
def Names.placeStream (names : Names) (m : Meaning) : Meaning × Names :=
  match m, names.takePlace with
  | .stream type 0 items, (place, names) => (.stream type place items, names)
  | _, _ => (m, names)

/-- Several meanings with places of their own where they need some. -/
def Names.placeStreams (names : Names) : List Meaning → List Meaning × Names
  | [] => ([], names)
  | m :: rest =>
    let (m, names) := names.placeStream m
    let (rest, names) := names.placeStreams rest
    (m :: rest, names)

/-- A meaning at a place of its own, if it can change and has none yet. -/
def Names.place (names : Names) (m : Meaning) : Meaning × Names :=
  match m, names.takePlace with
  | .collection kind 0 items, (place, names) => (.collection kind place items, names)
  | .stream type 0 items, (place, names) => (.stream type place items, names)
  | .generator type 0 title source target body known places pending, (place, names) =>
    let (source, names) := match source with
      | .tuple parts =>
        let (parts, names) := names.placeStreams parts
        (.tuple parts, names)
      | other => names.placeStream other
    (.generator type place title source target body known places pending, names)
  | m, _ => (m, names)

end SheetExport.Annotation
