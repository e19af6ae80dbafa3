/-
**Members of record types.**

A record type has functions, properties and constants under names of their own. A function belongs
to the records of the type, to the type, or to neither; it takes what it belongs to before all other
arguments. What a function computes does not depend on its other arguments, but it refuses those
that its parameters do not take (`checkArguments`).
-/

import SheetExport.Annotation.Resolution
import SheetExport.Schema

namespace SheetExport

/-- A member of a record type. -/
inductive Member
  | method (parameters : List Parameter) (body : Body) (returns : Option FieldType)
  /-- A function that belongs to the type and not to its records; it may take the type. -/
  | typeMethod (takesType : Bool) (parameters : List Parameter) (body : Body)
  | property (body : Body) (returns : Option FieldType)
  /-- A property that can be set and not be read. -/
  | writeOnly
  | constant (v : Value)

/-! ### Texts -/

/-- The text of a function of a name. -/
def functionText (name : String) : String := "<function " ++ name ++ ">"

/-- The text of code that is bound to something of the given text. -/
def boundText (name owner : String) : String := "<bound method " ++ name ++ " of " ++ owner ++ ">"

/-- The text of a class of a name. -/
def classText (name : String) : String := "<class '" ++ name ++ "'>"

namespace Member

/-- Is asked instead of what a record itself has under the name, and cannot be set. -/
def isProperty : Member → Bool
  | property .. | writeOnly => true
  | _ => false

/-- What a member of a name stands for in an annotation. -/
def meaning (name : String) : Member → Annotation.Meaning
  | constant v => .value v
  | method .. => Annotation.shownValue "function" (functionText name)
  | typeMethod true .. => Annotation.shownValue "classmethod" ("<classmethod(" ++ name ++ ")>")
  | typeMethod false .. => Annotation.shownValue "staticmethod" ("<staticmethod(" ++ name ++ ")>")
  | property .. | writeOnly => Annotation.shownValue "property" "<property object>"

/-- A member of a name as it is read off the type of a name. -/
def onType (name type : String) : Member → Value
  | constant v => v
  | method .. | typeMethod false .. => .code "function" (.ok (functionText name))
  | typeMethod true .. => .code "method" (.ok (boundText name (classText type)))
  | property .. | writeOnly => .code "property" (.ok "<property object>")

end Member

/-! ### Arguments -/

/-- A parameter that takes what a function belongs to. -/
def Parameter.owner (name : String) : Parameter := ⟨name, .positional, false⟩

/-- How a parameter takes arguments. -/
def ParameterKind.passing : ParameterKind → Annotation.Passing
  | positional => .byEither
  | variadic => .allByPosition
  | keywordOnly => .byName
  | keywords => .allByName

/-- Refuses so many arguments by their places and these by their names, if a function with the given
parameters cannot be called with them. -/
def checkArguments (name : String) (parameters : List Parameter) (count : Nat)
    (named : List String) : Except Fault Unit :=
  let taken := parameters.map fun p => Annotation.Parameter.mk p.name p.kind.passing p.hasDefault
  let defaults := (parameters.filter (·.hasDefault)).map fun _ => Annotation.Meaning.absent
  let given : Annotation.Arguments :=
    ⟨List.replicate count .absent, named.map fun name => (name, .absent)⟩
  match Annotation.bindArguments name taken defaults given with
  | .ok _ => .ok ()
  | .error defect => .error (.issue defect.kind defect.message)

end SheetExport
