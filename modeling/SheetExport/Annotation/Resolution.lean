/-
**Resolved types.**

The texts inside a type are replaced by the types that they write, and those are resolved in turn;
a text that leads back to itself stays a reference. Unions and notes are made anew from their
resolved parts, so whatever is wrong with them in their final form shows here. `FieldType.resolve`
does so for the declared type of a field.
-/

import SheetExport.Annotation.Evaluation

namespace SheetExport

namespace Annotation

/-! ### References -/

/-- How deep types lead to further ones at most. -/
def nestingLimit : Nat := 1000

/-- The texts that a class is applied to as references to types. -/
def referToTexts (arguments : List Meaning) : Result (List Meaning) :=
  arguments.mapM fun m => match m with
    | .text s => referTo s
    | other => .ok other

/-- A union of resolved members. -/
def reunite (isPlain : Bool) (members : List Meaning) : Result Meaning :=
  match isPlain, members with
  | true, first :: rest => rest.foldlM either first
  | _, _ => unionOf members

/-- The type that a text writes. -/
def typeOf (scope : Scope) (text : String) : Reading Meaning := do
  let e ← known (readText text)
  known (asType "Forward references must evaluate to types." (← scope.evaluate e))

/-- A type with its references resolved to a depth, apart from those to the given texts. -/
def resolveReferences (scope : Scope) : Nat → List String → Meaning → Reading Meaning
  | 0, _, m => return m
  | depth + 1, seen, m =>
    match m with
    | .reference text => do
      if seen.contains text then return m
      else resolveReferences scope depth (text :: seen) (← typeOf scope text)
    | .union isPlain members => do
      known (reunite isPlain (← members.mapM (resolveReferences scope depth seen)))
    | .annotated inner notes => do
      known (annotatedWith notes (← resolveReferences scope depth seen inner))
    | .applied origin arguments => do
      let types ← known (referToTexts arguments)
      return .applied origin (← types.mapM (resolveReferences scope depth seen))
    | other => return other

/-- What is read where no names were made before. -/
def Reading.result {α : Type} (x : Reading α) : Result α := (x.run.run {}).1

end Annotation

namespace FieldType

open Annotation

/-! ### Declared types -/

mutual

/-- What a declared type stands for. -/
def meaning (classes : Namespace) : FieldType → Meaning
  | named name kind =>
    .named (((noneClass :: classes).find? (·.name = name)).getD
      ⟨name, kind, "", .ordinary, [], []⟩)
  | union members => .union false (meanings classes members)
  | annotated inner notes => .annotated (meaning classes inner) (notes.map fun s => .text s)
  | list (unresolved text) => .applied listClass [.text text]
  | list item => .applied listClass [meaning classes item]
  | unresolved text => .reference text
  | object shown _ => shownValue "object" shown

/-- What declared types stand for. -/
def meanings (classes : Namespace) : List FieldType → List Meaning
  | [] => []
  | t :: rest => meaning classes t :: meanings classes rest

end

/-- The text of a meaning, if it has one. -/
def textOf (m : Meaning) : String := m.shown.toOption.getD ""

mutual

/-- The declared type that stands for something. -/
def ofMeaning (classes : Namespace) : Meaning → FieldType
  | .absent => none
  | .named c =>
    if c = noneClass || classes.contains c then named c.name c.kind else object c.shown c.kind
  | .text s | .reference s => unresolved s
  | .union _ members => union (ofMeanings classes members)
  | .annotated inner notes => annotated (ofMeaning classes inner) (notes.map textOf)
  | .applied origin (item :: rest) =>
    if origin = listClass then list (ofMeaning classes item)
    else object (textOf (.applied origin (item :: rest))) .other
  | m => object (textOf m) .other

/-- The declared types that stand for something. -/
def ofMeanings (classes : Namespace) : List Meaning → List FieldType
  | [] => []
  | m :: rest => ofMeaning classes m :: ofMeanings classes rest

end

/-- The type with its texts resolved, or what is wrong with it. -/
def resolve (scope : Scope) (t : FieldType) : Reading FieldType := do
  let m ← resolveReferences scope nestingLimit [] (t.meaning scope.classes)
  return ofMeaning scope.classes m

/-- Whether the texts inside of unions and below notes can be types at all, which is known where
they are declared. -/
def checkParts (classes : Namespace) (t : FieldType) : Result Unit :=
  check nestingLimit (t.meaning classes)
where
  check : Nat → Meaning → Result Unit
    | 0, _ => .ok ()
    | depth + 1, m =>
      match m with
      | .union _ members => members.forM (part depth)
      | .annotated inner _ => part depth inner
      | .applied _ arguments => arguments.forM (part depth)
      | _ => .ok ()
  part (depth : Nat) (m : Meaning) : Result Unit :=
    match m with
    | .reference text => (referTo text).map fun _ => ()
    | other => check depth other

end FieldType

end SheetExport
