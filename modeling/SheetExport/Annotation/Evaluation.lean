/-
**What an expression stands for in a scope.**

`evaluate` goes through an expression from left to right and stops at the first thing that is wrong.
Assignments add names on the way, which stay known for the annotations that follow, and what
functions change is changed for everything that shares it. Functions and loops inside of an
annotation are gone through when they are needed, item by item (`pull`), so the evaluating functions
call each other with less fuel each time; `Scope.evaluate` gives them more than any annotation that
ends has a use for.
-/

import SheetExport.Annotation.Routine

namespace SheetExport.Annotation

/-- Readings of annotations, which may make names and may fail. -/
abbrev Reading := ExceptT Defect (StateM Names)

/-- A result that makes no names. -/
def known {α : Type} (r : Result α) : Reading α := ExceptT.mk (return r)

/-- Fails with a defect. -/
def failing {α : Type} (d : Defect) : Reading α := throw d

/-- An item, where no item following is the end. -/
def orEnd (x : Reading (Option Meaning)) : Reading (Option Meaning) :=
  tryCatch x fun d => if d = .exhausted then return none else throw d

/-- The items of a loop, out of which no end of items may come. -/
def withoutEnd {α : Type} (x : Reading α) : Reading α :=
  tryCatch x fun d =>
    throw (if d = .exhausted then .issue .runtime "generator raised StopIteration" else d)

/-- A meaning with all that changed in it. -/
def asNow (m : Meaning) : Reading Meaning := return (← get).present m

/-- Arguments with all that changed in them. -/
def argumentsNow (a : Arguments) : Reading Arguments := do
  let names ← get
  return ⟨a.plain.map names.present, a.named.map fun (name, m) => (name, names.present m)⟩

/-- A result at a place of its own, if it can change. -/
def made (r : Result Meaning) : Reading Meaning := do
  let m ← known r
  let (m, names) := (← get).place m
  set names
  return m

/-! ### Names of loops and functions -/

/-- What is wrong with parts for so many targets. -/
def partsDefect (targets : List Target) (count : Nat) : Defect :=
  let needed := (targets.filter fun t => match t with
    | .rest _ => false
    | _ => true).length
  let hasRest := needed < targets.length
  if count < needed then
    .invalid ("not enough values to unpack (expected " ++ (if hasRest then "at least " else "") ++
      toString needed ++ ", got " ++ toString count ++ ")")
  else .invalid ("too many values to unpack (expected " ++ toString needed ++ ")")

mutual

/-- What the names of a target stand for. -/
def targetParts : Target → Meaning → Result (List (String × Meaning))
  | .name s, m => .ok [(s, m)]
  | .rest s, m => .ok [(s, m)]
  | .several targets, m =>
    match itemsOf? m with
    | none => misused (if refusesItems m then .notIterable m.typeName else .noParts m.typeName)
    | some items =>
      match allTargetParts targets items with
      | none => .error (partsDefect targets items.length)
      | some result => result

/-- What the names of targets stand for, one by one; nothing if there are too many parts for them,
or too few. -/
def allTargetParts : List Target → List Meaning → Option (Result (List (String × Meaning)))
  | [], [] => some (.ok [])
  | [], _ :: _ => none
  | .rest s :: targets, items =>
    if items.length < targets.length then none
    else
      let count := items.length - targets.length
      (allTargetParts targets (items.drop count)).map fun result =>
        result.map ((s, .list (items.take count)) :: ·)
  | _ :: _, [] => none
  | t :: targets, m :: items =>
    (allTargetParts targets items).map fun result =>
      (targetParts t m).bind fun first => result.map (first ++ ·)

end

/-- Names with places of their own, at which nothing is yet. -/
def reserve (names : List String) : Reading (List (String × Nat)) := do
  let reserved := names.zipIdx.map fun (name, place) => (name, place)
  let taken := (← get).places + 1
  modify fun n => { n with places := n.places + names.length }
  return reserved.map fun (name, place) => (name, taken + place)

/-- What names stand for from now on, at the places that they have. -/
def fill (places : List (String × Nat)) (parts : List (String × Meaning)) : Reading Unit :=
  parts.forM fun (name, m) => do
    let m ← made (.ok m)
    match places.lookup name with
    | some place => modify fun n => n.change place [m]
    | none => return

/-! ### Arguments -/

/-- The name that something which is called has in messages about its arguments. -/
def calledName : Meaning → String
  | .function title .. => title
  | .routine name => name
  | .named c => c.path
  | .method owner name => (classOf owner).ownName ++ "." ++ name
  | .descriptor c name => c.ownName ++ "." ++ name
  | m => m.typeName

/-- Takes the items of a value among the arguments of a call. -/
def spreadArguments (target m : Meaning) : Result (List Meaning) :=
  match itemsOf? m with
  | some items => .ok items
  | none =>
    refuse (calledName target ++ "() argument after * must be an iterable, not " ++ m.typeName)

/-- Takes the keys of a value as names of arguments. -/
def spreadNamed (target m : Meaning) (earlier : List (String × Meaning)) :
    Result (List (String × Meaning)) :=
  match m with
  | .collection .dictionary _ items => add items
  | _ =>
    refuse (if hasKeys m then keysUnbound
      else calledName target ++ "() argument after ** must be a mapping, not " ++ m.typeName)
where
  add : List Meaning → Result (List (String × Meaning))
    | name :: value :: rest =>
      match name.text? with
      | none => refuse "keywords must be strings"
      | some name =>
        if earlier.any (·.1 = name) then
          refuse (calledName target ++ "() got multiple values for keyword argument " ++
            Text.quoted name)
        else (add rest).map ((name, value) :: ·)
    | _ => .ok []

/-- Classes and functions that go through all the items of their arguments. -/
def takesItems (name : String) : Bool :=
  isOneOf ("list tuple set frozenset dict bytes sum min max sorted join fromkeys union " ++
    "intersection difference symmetric_difference update extend issubset issuperset isdisjoint " ++
    "intersection_update difference_update symmetric_difference_update __iadd__ from_bytes") name

/-- Gives its items one after the other. -/
def isLazy : Meaning → Bool
  | .stream .. | .generator .. => true
  | _ => false

/-- How sequences of different lengths are refused that are taken side by side: the place of the one
that is shorter, or longer, than those before it. -/
def unequalLengths (place : Nat) (word : String) : Defect :=
  .invalid ("zip() argument " ++ toString (place + 1) ++ " is " ++ word ++ " than argument" ++
    (if place = 1 then " " else "s 1-") ++ toString place)

/-! ### Expressions -/

/-- The depth of evaluation. -/
def evaluationDepth : Nat := 4000

/-- What functions call a loop that gives the items of a collection, or gives them one by one. -/
def loopName : Option Collection → String
  | none => "<genexpr>"
  | some .list => "<listcomp>"
  | some .set => "<setcomp>"
  | some .dictionary => "<dictcomp>"

mutual

/-- What an expression stands for. -/
def evaluate (scope : Scope) : Nat → Place → Expression → Reading Meaning
  | 0, _, _ => failing .endless
  | fuel + 1, place, e => do
    let value := fun e => do asNow (← evaluate scope fuel place e)
    match e with
    | .name s =>
      match scope.find? (← get) place s with
      | some m => asNow m
      | none => failing (.unknownName s)
    | .constant c => return .ofConstant c
    | .tuple items => return .tuple (← evaluateItems scope fuel place items)
    | .collection .dictionary items =>
      made (collect .dictionary (← evaluatePairs scope fuel place items))
    | .collection kind items =>
      let found ← evaluateItems scope fuel place items
      if kind = .set && 2 < items.length && areConstant items then
        made ((collect kind found).map fun _ =>
          .set (Meaning.arrangedAs true (Meaning.distinct found)))
      else made (collect kind found)
    | .pair key _ => value key
    | .spread e | .spreadPairs e | .argument _ e => value e
    | .comprehension kind (.loop target items body) =>
      let source ← value items
      match kind with
      | none =>
        let own ← reserve (namesOf target)
        let bound := own ++ (← get).bound
        let source ← known (iterator source)
        made (.ok (.generator "generator" 0 (place.beginning ++ loopName kind) source target body
          (bound.map Prod.fst) (bound.map Prod.snd) []))
      | some into =>
        let items ← runLoop scope fuel (place.inLoop (loopName kind)) target body source
        made (collect into items)
    | .comprehension _ e | .loop _ _ e | .filter _ e => value e
    | .subscript target index =>
      let t ← value target
      let i ← value index
      made (subscript (← asNow t) i)
    | .slice start stop step =>
      let a ← value start
      let b ← value stop
      return .slice a b (← value step)
    | .member target name => known (attributeOf name (← value target))
    | .call (.member target name) arguments =>
      let owner ← value target
      let f ← known (attributeOf name owner)
      let given ← evaluateArguments scope fuel place f arguments
      call scope fuel place true f given
    | .call target arguments =>
      let f ← value target
      let given ← evaluateArguments scope fuel place f arguments
      call scope fuel place false f given
    | .signed sign e => known (signed sign (← value e))
    | .negation e => return .truth !(← value e).isTruthy
    | .operation operator left right =>
      let l ← value left
      let r ← value right
      made (operate operator (← asNow l) r)
    | .comparison operators operands =>
      match operands with
      | [] => return .truth true
      | first :: others => compareAll scope fuel place (← value first) operators others
    | .conjunction left right =>
      let l ← value left
      if l.isTruthy then value right else return l
    | .disjunction left right =>
      let l ← value left
      if l.isTruthy then return l else value right
    | .choice condition yes no => if (← value condition).isTruthy then value yes else value no
    | .assignment name e =>
      let m ← value e
      modify (scope.assign place name m)
      return m
    | .function parameters defaults body =>
      let given ← evaluateItems scope fuel place defaults
      let bound := (← get).bound
      return .function (place.beginning ++ "<lambda>") parameters given body (bound.map Prod.fst)
        (bound.map Prod.snd)
    | .formatted parts =>
      let shown ← parts.mapM fun part => do known (displayText (← value part))
      return .text (String.join shown)
    | .field e conversion layout =>
      let m ← value e
      let written ← match conversion with
        | some letter => known (converted letter m)
        | none => pure m
      let style ← known (displayText (← value layout))
      return .text (← known (layOut style (← asNow written)))

/-- What the items of brackets stand for, with those that are spread. -/
def evaluateItems (scope : Scope) : Nat → Place → List Expression → Reading (List Meaning)
  | 0, _, _ => failing .endless
  | _, _, [] => return []
  | fuel + 1, place, .spread e :: rest => do
    let m ← asNow (← evaluate scope fuel place e)
    let items ← if isLazy m then drain scope fuel m else known (spreadItems m)
    return items ++ (← evaluateItems scope fuel place rest)
  | fuel + 1, place, e :: rest => do
    let m ← evaluate scope fuel place e
    return m :: (← evaluateItems scope fuel place rest)

/-- The keys and values that the items of a dictionary stand for, by turns. -/
def evaluatePairs (scope : Scope) : Nat → Place → List Expression → Reading (List Meaning)
  | 0, _, _ => failing .endless
  | _, _, [] => return []
  | fuel + 1, place, .pair key value :: rest => do
    let k ← evaluate scope fuel place key
    let v ← evaluate scope fuel place value
    return k :: v :: (← evaluatePairs scope fuel place rest)
  | fuel + 1, place, e :: rest => do
    match ← asNow (← evaluate scope fuel place e) with
    | .collection .dictionary _ items => return items ++ (← evaluatePairs scope fuel place rest)
    | m =>
      failing (.misuse (if hasKeys m then .refused keysUnbound else .noKeys m.typeName))

/-- What the arguments of a call stand for. -/
def evaluateArguments (scope : Scope) :
    Nat → Place → Meaning → List Expression → Reading Arguments
  | 0, _, _, _ => failing .endless
  | fuel + 1, place, target, arguments => do
    let isPlain := fun (e : Expression) => !((e matches .spreadPairs _) || (e matches .argument ..))
    let isAlone := (arguments.filter isPlain).length = 1
    let given ← arguments.foldlM (fun (given : Arguments) argument => do
      let m ← asNow (← evaluate scope fuel place argument)
      match argument with
      | .spread _ =>
        let items ← if isLazy m then drain scope fuel m
          else known (if isAlone then spreadArguments target m else spreadItems m)
        return { given with plain := given.plain ++ items }
      | .spreadPairs _ =>
        return { given with named := given.named ++ (← known (spreadNamed target m given.named)) }
      | .argument name _ => return { given with named := given.named ++ [(name, m)] }
      | _ => return { given with plain := given.plain ++ [m] }) ⟨[], []⟩
    argumentsNow given

/-- What comparisons one after the other find: the first that does not hold, or the last. -/
def compareAll (scope : Scope) :
    Nat → Place → Meaning → List String → List Expression → Reading Meaning
  | 0, _, _, _, _ => failing .endless
  | fuel + 1, place, left, operator :: operators, operand :: operands => do
    let right ← asNow (← evaluate scope fuel place operand)
    let l ← asNow left
    let isAmong := isLazy right && (operator = "in" || operator = "not in")
    let holds ← if isAmong then do
        let found ← findAmong scope fuel right fun m => return l.same m
        pure (found.isSome == decide (operator = "in"))
      else known (compareBy operator l right)
    if holds && !operators.isEmpty then compareAll scope fuel place right operators operands
    else return .truth holds
  | _, _, _, _, _ => return .truth true

/-- The first of the items of something for which a test holds; those before it are taken. -/
def findAmong (scope : Scope) :
    Nat → Meaning → (Meaning → Reading Bool) → Reading (Option Meaning)
  | 0, _, _ => failing .endless
  | fuel + 1, m, holds => do
    if isLazy m then
      for _ in [0:maxRange] do
        match ← pull scope fuel m with
        | none => return none
        | some item => if ← holds item then return some item
      return none
    else
      for item in ← known (itemsOf m) do
        if ← holds item then return some item
      return none

/-- All the items of something, which it does not have any longer if it gave them one by one. -/
def drain (scope : Scope) : Nat → Meaning → Reading (List Meaning)
  | 0, _ => failing .endless
  | fuel + 1, m => do
    match ← asNow m with
    | .stream _ place items =>
      modify fun n => n.change place []
      return items
    | .generator type place title source target body names places pending =>
      let source := .generator type place title source target body names places pending
      let mut items : List Meaning := []
      for _ in [0:maxRange] do
        match ← pull scope fuel source with
        | none => break
        | some item => items := item :: items
      return items.reverse
    | other => known (itemsOf other)

/-- The next items of several things, unless one of them has none; if all have to have as many, the
place of the first is given. -/
def pullRows (scope : Scope) :
    Nat → Option Nat → List Meaning → Reading (Option (List Meaning))
  | 0, _, _ => failing .endless
  | _, _, [] => return some []
  | fuel + 1, place, row :: rows => do
    match ← pull scope fuel row, place with
    | some m, _ =>
      let more ← pullRows scope fuel (place.map (· + 1)) rows
      return more.map (m :: ·)
    | none, none => return none
    | none, some 0 =>
      for (other, beyond) in rows.zipIdx do
        if (← pull scope fuel other).isSome then failing (unequalLengths (beyond + 1) "longer")
      return none
    | none, some n => failing (unequalLengths n "shorter")

/-- The next item of something that gives its items one after the other, if one follows. -/
def pull (scope : Scope) : Nat → Meaning → Reading (Option Meaning)
  | 0, _ => failing .endless
  | fuel + 1, m => do
    let contents := (← get).contents
    match m.withContents contents with
    | .stream _ place items =>
      match items with
      | [] => return none
      | first :: rest =>
        modify fun n => n.change place rest
        return some (← asNow first)
    | .generator "map" _ _ (.tuple (f :: rows)) .. =>
      match ← pullRows scope fuel none rows with
      | none => return none
      | some items => orEnd do return some (← call scope fuel .outermost false f ⟨items, []⟩)
    | .generator "filter" _ _ (.tuple [f, source]) .. =>
      orEnd <| findAmong scope fuel source fun item => do
        match f with
        | .absent => return item.isTruthy
        | f => return (← call scope fuel .outermost false f ⟨[item], []⟩).isTruthy
    | .generator "zip" _ _ (.tuple []) .. => return none
    | .generator "zip" _ _ (.tuple rows) _ _ _ _ pending =>
      let isStrict := pending.any Meaning.isTruthy
      return (← pullRows scope fuel (if isStrict then some 0 else none) rows).map .tuple
    | .generator "enumerate" place _ source _ _ _ _ [.integer n] =>
      match ← pull scope fuel source with
      | none => return none
      | some item =>
        modify fun names => names.change place [.integer (n + 1)]
        return some (.tuple [.integer n, item])
    | .generator "callable_iterator" place _ (.tuple [f, last]) _ _ _ _ ended =>
      if !ended.isEmpty then return none
      else
        match ← orEnd do return some (← call scope fuel .outermost false f ⟨[], []⟩) with
        | some result =>
          if !last.same result then return some result
        | none => pure ()
        modify fun names => names.change place [.absent]
        return none
    | .generator _ place _ _ _ _ _ _ (first :: rest) =>
      modify fun names => names.change place rest
      return some (← asNow first)
    | .generator _ place title source target body names places [] =>
      let own := names.zip places
      for _ in [0:maxRange] do
        match ← pull scope fuel source with
        | none =>
          modify fun names => names.change place []
          return none
        | some item =>
          let outer := (← get).bound
          modify fun n => { n with bound := own }
          let results ← withoutEnd <| runItem scope fuel ⟨.loop, title ++ "."⟩ target body own item
          modify fun n => { n with bound := outer }
          match results with
          | [] => pure ()
          | first :: rest =>
            modify fun names => names.change place rest
            return some first
      return none
    | other => failing (.misuse (.refused ("'" ++ other.typeName ++ "' object is not an iterator")))

/-- What a loop gives for an item, with the places of its names. -/
def runItem (scope : Scope) : Nat → Place → Target → Expression → List (String × Nat) → Meaning →
    Reading (List Meaning)
  | 0, _, _, _, _, _ => failing .endless
  | fuel + 1, place, target, body, own, m => do
    let item ← asNow m
    let parts ← match target with
      | .several _ => do
        if isLazy item then
          let items ← drain scope fuel item
          known (targetParts target (.tuple items))
        else known (targetParts target item)
      | _ => known (targetParts target item)
    fill own parts
    runBody scope fuel place body

/-- What a loop gives for the items of something, one after the other; of pairs, keys and values by
turns. -/
def runLoop (scope : Scope) :
    Nat → Place → Target → Expression → Meaning → Reading (List Meaning)
  | 0, _, _, _, _ => failing .endless
  | fuel + 1, place, target, body, source => do
    let own ← reserve (namesOf target)
    let places := own.map Prod.snd
    modify fun n => { n with bound := own ++ n.bound }
    let mut results : List (List Meaning) := []
    if isLazy source then
      for _ in [0:maxRange] do
        match ← pull scope fuel source with
        | none => break
        | some item => results := (← runItem scope fuel place target body own item) :: results
    else
      for item in ← known (itemsOf source) do
        results := (← runItem scope fuel place target body own item) :: results
    modify fun n => { n with bound := n.bound.filter fun (_, place) => !places.contains place }
    return results.reverse.flatten

/-- What the body of a loop gives. -/
def runBody (scope : Scope) : Nat → Place → Expression → Reading (List Meaning)
  | 0, _, _ => failing .endless
  | fuel + 1, place, e =>
    match e with
    | .loop target items body => do
      runLoop scope fuel place target body (← asNow (← evaluate scope fuel place items))
    | .filter condition body => do
      let holds := (← asNow (← evaluate scope fuel place condition)).isTruthy
      if holds then runBody scope fuel place body else return []
    | .pair key value => do
      let k ← evaluate scope fuel place key
      return [k, ← evaluate scope fuel place value]
    | e => return [← evaluate scope fuel place e]

/-- The keys that a function makes of items, or the items where there is no function. -/
def keysOfItems (scope : Scope) :
    Nat → Place → Option Meaning → List Meaning → Reading (List Meaning)
  | 0, _, _, _ => failing .endless
  | fuel + 1, place, key, items =>
    match key with
    | none => return items
    | some f => items.mapM fun item => call scope fuel place false f ⟨[item], []⟩

/-- Arguments with all the items of those that give them one by one, where these are needed. -/
def settleArguments (scope : Scope) : Nat → String → Arguments → Reading Arguments
  | 0, _, _ => failing .endless
  | fuel + 1, name, a =>
    if takesItems name then do
      let plain ← a.plain.mapM fun m => do
        if isLazy m then return .stream "generator" 0 (← drain scope fuel m) else return m
      return { a with plain }
    else return a

/-- The result of calling something, which may have been looked up where it is called. -/
def call (scope : Scope) : Nat → Place → Bool → Meaning → Arguments → Reading Meaning
  | 0, _, _, _, _ => failing .endless
  | fuel + 1, place, direct, target, a => do
    match target with
    | .function title parameters defaults body names places =>
      let given ← known (bindArguments title parameters defaults a)
      let outer := (← get).bound
      let own ← reserve (given.map Prod.fst)
      modify fun n => { n with bound := own ++ names.zip places }
      fill own given
      let result ← evaluate scope fuel (.inFunction title) body
      modify fun n => { n with bound := outer }
      return result
    | .annotated inner _ => call scope fuel place direct inner a
    | .form f => failing (.misuse (.notInstantiable f.shown))
    | .union false _ => failing (.misuse (.notInstantiable Form.union.shown))
    | .named c | .applied c _ =>
      let settled ← settleArguments scope fuel c.name a
      made (makeOf c (← argumentsNow settled))
    | .routine name => callKnown scope fuel place name a
    | .method owner name => callOwned scope fuel place direct owner name a
    | .descriptor c name =>
      match a.plain with
      | owner :: rest =>
        if isOneOf "sort __next__ __call__" name && isSubclass (classOf owner) c then
          callOwned scope fuel place direct owner name { a with plain := rest }
        else
          let settled ← settleArguments scope fuel name { a with plain := rest }
          let whole := { settled with plain := owner :: settled.plain }
          finish owner (callDescriptor c name (← argumentsNow whole))
      | [] => finish target (callDescriptor c name a)
    | m =>
      if isCallable m then return someObject
      else failing (.misuse (.notCallable m.typeName))

/-- What a function of an owner gives, after the owner was changed. -/
def finish (owner : Meaning) (x : Result Outcome) : Reading Meaning := do
  let outcome ← known x
  match outcome.contents with
  | some contents => modify fun n => n.change (placeOf owner) contents
  | none => pure ()
  asNow (← made (.ok outcome.result))

/-- The result of a function known everywhere. -/
def callKnown (scope : Scope) : Nat → Place → String → Arguments → Reading Meaning
  | 0, _, _, _ => failing .endless
  | fuel + 1, place, name, a => do
    let settled ← settleArguments scope fuel name a
    match name, settled.plain with
    | "eval", m :: _ =>
      match m.text? with
      | none => failing (.misuse (.refused "eval() arg 1 must be a string, bytes or code object"))
      | some s =>
        match Expression.ofText? (String.ofList (s.toList.dropWhile isInnerBlank)) with
        | some e => evaluate scope fuel { place with beginning := "" } e
        | none => failing (.issue .malformed "invalid syntax (<string>, line 1)")
    | "next", m :: rest =>
      if !settled.named.isEmpty || 1 < rest.length then known (callRoutine name settled)
      else
        match ← pull scope fuel m, rest with
        | some item, _ => return item
        | none, default :: _ => return default
        | none, [] => failing .exhausted
    | "iter", [m] =>
      if !settled.named.isEmpty then known (callRoutine name settled) else made (iterator m)
    | "iter", [f, last] =>
      if isCallable f then made (.ok (.lazily "callable_iterator" (.tuple [f, last]) []))
      else failing (.misuse (.refused "iter(v, w): v must be callable"))
    | "any", [m] => return .truth (← findAmong scope fuel m fun m => return m.isTruthy).isSome
    | "all", [m] => return .truth (← findAmong scope fuel m fun m => return !m.isTruthy).isNone
    | "max", _ | "min", _ =>
      let choice ← known (choiceOf name settled)
      let keys ← keysOfItems scope fuel place choice.key choice.items
      known (choice.among name keys)
    | "sorted", _ =>
      let sorting ← known (sortingOf settled)
      let keys ← keysOfItems scope fuel place sorting.key sorting.items
      made ((sorting.of keys).map .list)
    | _, _ => made (callRoutine name settled)

/-- The result of a function of an owner. -/
def callOwned (scope : Scope) :
    Nat → Place → Bool → Meaning → String → Arguments → Reading Meaning
  | 0, _, _, _, _, _ => failing .endless
  | fuel + 1, place, direct, owner, name, a => do
    match owner, name with
    | .function .., "__call__" | .routine _, "__call__" | .method .., "__call__"
    | .descriptor .., "__call__" | .named _, "__call__" | .annotated .., "__call__"
    | .form _, "__call__" | .union false _, "__call__" => call scope fuel place false owner a
    | .generator .., "__next__" | .generator .., "send" =>
      let signature := if name = "send" then Signature.single else .operator 0 0
      let found ← known (signature.settle ("generator." ++ name) name a)
      if !found.all (· matches some .absent) && (← get).contents[placeOf owner]?.isNone then
        failing (.misuse (.refused "can't send non-None value to a just-started generator"))
      match ← pull scope fuel owner with
      | some m => return m
      | none => failing .exhausted
    | .generator .., "throw" => known (raiseThrough a)
    | .collection .list _ items, "sort" =>
      let found ← known (sortSignature.settle "sort" "sort" a)
      let sorting ← known (sortingBy items found)
      let keys ← keysOfItems scope fuel place sorting.key sorting.items
      finish owner ((sorting.of keys).map .change)
    | _, _ =>
      let settled ← settleArguments scope fuel name a
      finish owner (callMethod direct owner name (← argumentsNow settled))

end

/-- What an expression stands for in a scope, with the names that are made on the way. -/
def Scope.evaluate (scope : Scope) (e : Expression) : Reading Meaning := do
  modify fun n => { n with bound := [] }
  asNow (← Annotation.evaluate scope evaluationDepth .outermost e)

end SheetExport.Annotation
