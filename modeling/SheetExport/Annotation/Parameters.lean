/-
**Arguments and the parameters that take them.**

A function takes the arguments of a call by their places, by their names, or by either, and all that
is left by a parameter for the rest. `bindArguments` says what every parameter stands for, or what is
missing or too much.
-/

import SheetExport.Annotation.Signature

namespace SheetExport.Annotation

/-- The parameters of a function with their defaults. -/
def withDefaults : List Parameter → List Meaning → List (Parameter × Option Meaning)
  | [], _ => []
  | p :: rest, defaults =>
    match p.hasDefault, defaults with
    | true, d :: others => (p, some d) :: withDefaults rest others
    | _, _ => (p, none) :: withDefaults rest defaults

/-- What is missing among the arguments of a function. -/
def missingText (kind : String) (names : List String) : String :=
  "missing " ++ counted names.length ("required " ++ kind ++ " argument")
    ("required " ++ kind ++ " arguments") ++ ": " ++ enumerated names

/-- What the parameters of a function of a title stand for in a call. -/
def bindArguments (title : String) (parameters : List Parameter) (defaults : List Meaning)
    (arguments : Arguments) : Result (List (String × Meaning)) := do
  let refusal := fun text : String => (refuse (title ++ "() " ++ text) : Result Unit)
  let takesPlace := fun p : Parameter => [Passing.byPosition, .byEither].contains p.passing
  let places := parameters.filter takesPlace
  let filled := (places.zip arguments.plain).map fun (p, m) => (p.name, m)
  let further := arguments.plain.drop places.length
  let all := parameters.find? (·.passing == .allByPosition)
  let rest := parameters.find? (·.passing == .allByName)
  let isNamed := fun name : String => parameters.any fun p =>
    p.name = name && [Passing.byEither, .byName].contains p.passing
  for (name, _) in arguments.named do
    if isNamed name then
      if filled.any (·.1 = name) then
        refusal ("got multiple values for argument " ++ Text.quoted name)
    else if rest.isNone then
      if places.any (·.name = name) then
        refusal ("got some positional-only arguments passed as keyword arguments: " ++
          Text.quoted name)
      else refusal ("got an unexpected keyword argument " ++ Text.quoted name)
  if !further.isEmpty && all.isNone then
    let required := (places.filter (!·.hasDefault)).length
    let given := arguments.plain.length
    let were := if given = 1 then " was given" else " were given"
    let taken := if required < places.length then
        "from " ++ toString required ++ " to " ++ toString places.length ++
          " positional arguments"
      else counted places.length "positional argument" "positional arguments"
    refusal ("takes " ++ taken ++ " but " ++ toString given ++ were)
  let valueOf := fun (p : Parameter) (default : Option Meaning) =>
    let given := if p.passing == .byPosition then none else arguments.named.lookup p.name
    ((filled.lookup p.name).or given).or default
  let settled := (withDefaults parameters defaults).map fun (p, default) => (p, valueOf p default)
  let lacking := fun (takes : Parameter → Bool) => settled.filterMap fun (p, found) =>
    if takes p && found.isNone then some p.name else none
  if !(lacking takesPlace).isEmpty then
    refusal (missingText "positional" (lacking takesPlace))
  let byName := fun p : Parameter => p.passing == .byName
  if !(lacking byName).isEmpty then
    refusal (missingText "keyword-only" (lacking byName))
  let unnamed := arguments.named.filter fun (name, _) => !isNamed name
  return settled.filterMap (fun (p, found) => found.map fun m => (p.name, m)) ++
    all.toList.map (fun p => (p.name, .tuple further)) ++
    rest.toList.map fun p => (p.name,
      .dictionary (unnamed.flatMap fun (name, m) => [.text name, m]))

/-- The arguments for parameters of the given names, of which the last ones have defaults. -/
def bindNames (title : String) (names : List String) (defaults : List Meaning) (a : Arguments) :
    Result (List Meaning) :=
  let required := names.length - defaults.length
  let parameters := names.zipIdx.map fun (name, place) =>
    Parameter.mk name .byEither (decide (required ≤ place))
  (bindArguments title parameters defaults a).map fun bound => names.filterMap (bound.lookup ·)

end SheetExport.Annotation
