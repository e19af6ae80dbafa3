/-
**Operators between meanings.**

Numbers and temporal values are calculated with, sequences are joined and repeated, sets are
combined, and types become alternatives of each other (`operate`). `compareBy` says what an operator
of comparison finds, and `signed` applies a sign. What does not combine is a misuse.
-/

import SheetExport.Annotation.Template
import SheetExport.Number.Decimal.Power
import SheetExport.Number.Modular
import SheetExport.Text.Search
import SheetExport.Value.Product
import SheetExport.Value.Temporal

namespace SheetExport.Annotation

open Meaning (keysOf valuesOf viewed rangeLength)

/-! ### Numbers and temporal values -/

/-- A meaning with a sign. -/
def signed (sign : String) (m : Meaning) : Result Meaning :=
  match m, m.number?.bind (Numeric.signed? sign) with
  | _, some result => (ofValues result).map fun n => .value n.toValue
  | .value (.duration d), none =>
    if sign = "~" then misused (.noSign sign m.typeName)
    else if sign = "-" then (ofValues (Value.durationOf (-d.microseconds))).map .value
    else .ok m
  | _, none => misused (.noSign sign m.typeName)

/-- The truth value that an operator makes of two. -/
def truthOperation? (operator : String) (a b : Bool) : Option Bool :=
  match operator with
  | "&" => some (a && b)
  | "|" => some (a || b)
  | "^" => some (a != b)
  | _ => none

/-- What an operator makes of two values, if it makes anything of them. A quantity and an exact ratio
meet as floats. -/
def operateValues? (operator : String) (a b : Value) : Option (Result Value) :=
  let truths := match a, b with
    | .bool x, .bool y => truthOperation? operator x y
    | _, _ => none
  let numbers := match a, b with
    | .quantity _ (some x), .ratio q =>
      if operator = "**" then none else Numeric.operate? operator (.float x) (.ratio q)
    | _, _ =>
      match Numeric.ofValue? a, Numeric.ofValue? b with
      | some m, some n => Numeric.operate? operator m n
      | _, _ => none
  match truths, numbers with
  | some holds, _ => some (.ok (.bool holds))
  | none, some result => some ((ofValues result).map Numeric.toValue)
  | none, none => (Value.operateTemporal? operator a b).map ofValues

/-! ### Sequences and sets -/

/-- The length from which on items do not fit into the memory. -/
def itemLimit : Nat := twoPow 26

/-- Items repeated a count of times. -/
def repeatItems {α : Type} (items : List α) (count : Int) : Result (List α) :=
  if greatestIndex < count.natAbs then .error (.ofFault .beyondCounts)
  else if itemLimit ≤ items.length * count.toNat then .error (.ofFault .outOfMemory)
  else if items.isEmpty then .ok []
  else .ok (List.replicate count.toNat items).flatten

/-- A sequence that is repeated a count of times. -/
def repeated? (m : Meaning) (count : Int) : Option (Result Meaning) :=
  match m, m.text? with
  | _, some s => some ((ofValues (Value.repeated s count)).map .text)
  | .tuple items, _ | .labelled _ _ items, _ => some ((repeatItems items count).map .tuple)
  | .collection .list _ items, _ => some ((repeatItems items count).map .list)
  | .bytes content, _ =>
    let isTooLong := greatestIndex < content.length * count.toNat && count.natAbs ≤ greatestIndex
    some (if isTooLong then .error (.issue .overflow "repeated bytes are too long")
      else (repeatItems content count).map .bytes)
  | _, _ => none

/-- What `*` makes of two meanings of which one is a sequence. -/
def repeat? (left right : Meaning) : Option (Result Meaning) :=
  let refusal := fun (m : Meaning) => some (misused (.noRepetition m.typeName))
  match repeated? left 0, repeated? right 0, left.integer?, right.integer? with
  | some _, _, _, some n => repeated? left n
  | none, some _, some n, _ => repeated? right n
  | some _, _, _, none => refusal right
  | none, some _, none, _ => refusal left
  | none, none, _, _ => none

/-- What `+` makes of two meanings of which the first is a sequence. -/
def join? (left right : Meaning) : Option (Result Meaning) :=
  match left, right, left.text?, right.text? with
  | _, _, some s, some s' => some (.ok (.text (s ++ s')))
  | _, _, some _, none => some (misused (.noJoining "str" right.typeName))
  | .tuple items, .tuple items', _, _ | .tuple items, .labelled _ _ items', _, _
  | .labelled _ _ items, .tuple items', _, _
  | .labelled _ _ items, .labelled _ _ items', _, _ => some (.ok (.tuple (items ++ items')))
  | .tuple _, _, _, _ | .labelled .., _, _, _ =>
    some (misused (.noJoining "tuple" right.typeName))
  | .collection .list _ items, .collection .list _ items', _, _ =>
    some (.ok (.list (items ++ items')))
  | .collection .list .., _, _, _ => some (misused (.noJoining "list" right.typeName))
  | .bytes content, .bytes content', _, _ => some (.ok (.bytes (content ++ content')))
  | .bytes _, _, _, _ => some (refuse ("can't concat " ++ right.typeName ++ " to bytes"))
  | _, _, _, _ => none

/-- The members of a set, which may be one that does not change, or a view of a dictionary. -/
def setMembers? : Meaning → Option (List Meaning)
  | .collection .set _ items | .frozen items => some items
  | .view .keys _ items => some (viewed .keys items)
  | .view .pairs _ items => some (viewed .pairs items)
  | _ => none

/-- A view of the keys or the pairs of a dictionary. -/
def isSetView : Meaning → Bool
  | .view kind .. => kind ≠ .values
  | _ => false

/-- A meaning is among members. -/
def isMember (members : List Meaning) (m : Meaning) : Bool := members.any (m.same ·)

/-- What an operator makes of the members of two sets. -/
def combineSets? (operator : String) (a b : List Meaning) : Option (List Meaning) :=
  match operator with
  | "|" => some (Meaning.joined b.length a (b.filter (!isMember a ·)))
  | "&" =>
    let (less, more) := if a.length < b.length then (a, b) else (b, a)
    some (Meaning.arranged (less.filter (isMember more)))
  | "-" => some (Meaning.arranged (a.filter (!isMember b ·)))
  | "^" => some (Meaning.joined 0 (b.filter (!isMember a ·)) (a.filter (!isMember b ·)))
  | _ => none

/-- What an operator makes of two meanings that have members or keys. -/
def combine? (operator : String) (left right : Meaning) : Option (Result Meaning) :=
  let isView := isSetView left || isSetView right
  match left, right, setMembers? left, setMembers? right with
  | .collection .dictionary _ a, .collection .dictionary _ b, _, _ =>
    if operator = "|" then some (.ok (.dictionary (putPairs a b))) else none
  | _, _, some a, some b =>
    (combineSets? operator a b).map fun members =>
      .ok (if left.typeName = "frozenset" && !isView then .frozen members else .set members)
  | _, _, _, _ =>
    if !isView then none
    else
      match combineSets? operator [] [], itemsOf left, itemsOf right with
      | none, _, _ => none
      | some _, .ok a, .ok b =>
        some ((checkHashable (a ++ b)).map fun _ =>
          .set ((combineSets? operator (Meaning.distinct a) (Meaning.distinct b)).getD []))
      | some _, .error defect, _ | some _, _, .error defect => some (.error defect)

/-! ### Operators -/

/-- The name of an operator in messages. -/
def operatorName (operator : String) : String :=
  if operator = "**" then "** or pow()" else operator

/-- What an operator makes of two meanings that are no two values it makes something of. -/
def operateOthers (operator : String) (left right : Meaning) : Result Meaning :=
  let special := match operator, left, left.text? with
    | "+", _, _ => join? left right
    | "*", _, _ => repeat? left right
    | "%", _, some template => some (fillTemplate template right)
    | "%", .bytes template, _ => some (fillBytes template right)
    | "|", _, _ => if left.value?.isSome && right.value?.isSome then none
        else some (either left right)
    | _, _, _ => none
  let leftType := match left with
    | .value (.ratio _) => if operator = "**" then "float" else left.typeName
    | _ => left.typeName
  match combine? operator left right, special with
  | some result, _ => result
  | none, some result => result
  | none, none =>
    if operator = ">>" && left matches .routine "print" then
      refuse ((Misuse.noOperation operator leftType right.typeName).message ++
        ". Did you mean \"print(<message>, file=<output_stream>)\"?")
    else misused (.noOperation (operatorName operator) leftType right.typeName)

/-- What an operator makes of two meanings. -/
def operate (operator : String) (left right : Meaning) : Result Meaning :=
  let values := match left, right with
    | .value a, .value b => operateValues? operator a b
    | _, _ => none
  match values with
  | some result => result.map .value
  | none => operateOthers operator left right

/-- A quotient without its fraction, and what remains. -/
def divide (left right : Meaning) : Result Meaning :=
  let isZero := right.number?.any (·.same (.whole 0))
  let refusal := misused (.noOperation "divmod()" left.typeName right.typeName)
  let inOrder := (operate "//" left right).bind fun q =>
    (operate "%" left right).map fun r => .tuple [q, r]
  match left, right, left.number?, right.number? with
  | .value (.duration _), .value (.duration _), _, _ => inOrder
  | _, _, some (.complex _), _ | _, _, _, some (.complex _) => refusal
  | _, _, some (.decimal _), some (.float _) | _, _, some (.float _), some (.decimal _) => refusal
  | _, _, some a, some b =>
    let isFloat := fun n : Numeric => match n with
      | .float _ => true
      | _ => false
    let isDecimal := fun n : Numeric => match n with
      | .decimal _ => true
      | _ => false
    if (operate "//" left right matches .error (.misuse _)) then refusal
    else if isZero && (isFloat a || isFloat b) then .error (.issue .division "float divmod()")
    else if isZero && (isDecimal a || isDecimal b) && !a.same (.whole 0) then
      .error (.issue .decimalOperation
        "[<class 'decimal.InvalidOperation'>, <class 'decimal.DivisionByZero'>]")
    else inOrder
  | _, _, _, _ => refusal

/-! ### Powers of integers -/

/-- The decimal that a number is, if it is a decimal or an integer. -/
def decimalOf? (m : Meaning) : Option Decimal :=
  match m.number? with
  | some (.decimal d) => some d
  | some (.whole n) => some (.ofInt n)
  | _ => none

/-- A power, apart from multiples of a modulus. -/
def raise (base exponent modulus : Meaning) : Result Meaning :=
  let isFloat := fun m : Meaning => (m matches .float _) || m.typeName = "complex"
  match base.integer?, exponent.integer?, modulus.integer? with
  | some a, some n, some m =>
    if m = 0 then .error (.invalid "pow() 3rd argument cannot be 0")
    else
      let size : Int := m.natAbs
      match if n < 0 then inverse? a size else some (a.fmod size) with
      | none => .error (.invalid "base is not invertible for the given modulus")
      | some start =>
        let result := powerModulo start size (n.natAbs.log2 + 1) n.natAbs (1 % size)
        .ok (.integer (result.fmod m))
  | _, _, _ =>
    let isDecimal := fun m : Meaning => m.number? matches some (.decimal _)
    let decimals := [base, exponent, modulus].mapM decimalOf?
    if base.number? matches some (.ratio _) then
      refuse "Fraction.__pow__() takes 2 positional arguments but 3 were given"
    else if [base, exponent, modulus].any isFloat then
      refuse "pow() 3rd argument not allowed unless all arguments are integers"
    else if let (true, some [a, n, m]) := ([base, exponent, modulus].any isDecimal, decimals) then
      (ofValues ((Decimal.powModulo a n m).mapError Fault.signalled)).map fun d =>
        .value (.decimal d)
    else
      refuse ("unsupported operand type(s) for ** or pow(): '" ++ base.typeName ++ "', '" ++
        exponent.typeName ++ "', '" ++ modulus.typeName ++ "'")

/-! ### Comparison -/

/-- What an operator of order says of an ordering. -/
def decides (operator : String) (o : Ordering) : Bool :=
  match operator with
  | "<" => o = .lt
  | "<=" => o ≠ .gt
  | ">" => o = .gt
  | _ => o ≠ .lt

/-- What an operator of order says of two values. -/
def orderValues (operator : String) (a b : Value) : Result Bool :=
  let numbers := match Numeric.ofValue? a, Numeric.ofValue? b with
    | some m, some n => m.compare? n
    | _, _ => none
  match numbers, a.textual?, b.textual?, Value.compareTemporal? a b with
  | some (.ordered o), _, _, _ => .ok (decides operator o)
  | some .unordered, _, _, _ => .ok false
  | some (.refused fault), _, _, _ => .error (.ofFault fault)
  | none, some s, some s', _ => .ok (decides operator (compare s s'))
  | none, _, _, some o => .ok (decides operator o)
  | none, _, _, none =>
    if Value.areMixedDates a b then
      refuse "can't compare datetime.datetime to datetime.date"
    else misused (.noComparison operator a.typePath b.typePath)

/-- What an operator of order says of sets: those inside of others are less. -/
def orderSets? (operator : String) (left right : Meaning) : Option Bool :=
  match setMembers? left, setMembers? right with
  | some a, some b =>
    let within := fun (x y : List Meaning) => x.all (isMember y)
    some (match operator with
      | "<" => within a b && a.length < b.length
      | "<=" => within a b
      | ">" => within b a && b.length < a.length
      | _ => within b a)
  | _, _ => none

/-- What an operator of order says of sequences that are equal as far as the shorter one goes. -/
def decidesLengths (operator : String) (a b : Nat) : Bool := decides operator (compare a b)

mutual

/-- What an operator of order finds. -/
def order (operator : String) : Meaning → Meaning → Result Bool
  | .tuple items, b | .labelled _ _ items, b => match b with
    | .tuple items' | .labelled _ _ items' => orderItems operator items items'
    | _ => misused (.noComparison operator "tuple" b.typeName)
  | .collection .list _ items, b => match b with
    | .collection .list _ items' => orderItems operator items items'
    | _ => misused (.noComparison operator "list" b.typeName)
  | .bytes content, b => match b with
    | .bytes content' =>
      .ok (decides operator (compare (content.map (·.toNat)) (content'.map (·.toNat))))
    | _ => misused (.noComparison operator "bytes" b.typeName)
  | a, b =>
    match a, b, orderSets? operator a b with
    | _, _, some holds => .ok holds
    | .value v, .value w, none => orderValues operator v w
    | _, _, none => misused (.noComparison operator a.typeName b.typeName)

/-- What an operator of order finds at the first items that differ. -/
def orderItems (operator : String) : List Meaning → List Meaning → Result Bool
  | a :: as, b :: bs => if a.same b then orderItems operator as bs else order operator a b
  | as, bs => .ok (decidesLengths operator as.length bs.length)

end

/-- The place of what can change, if it has one. -/
def placeOf : Meaning → Nat
  | .collection _ place _ | .view _ place _ | .stream _ place _ => place
  | .generator _ place .. => place
  | _ => 0

/-- Values that are one and the same thing if they are equal. -/
def isShared : Value → Bool
  | .decimal _ | .ratio _ | .complex _ | .float _ => false
  | _ => true

/-- Is the same thing, and not only equal to it. -/
def isIdentical (a b : Meaning) : Bool :=
  match a, b with
  | .float x, .float y => x.toBits = y.toBits
  | .value v, .value w => isShared v && v.typeName = w.typeName && v.same w
  | .tuple items, .tuple items' => items.isEmpty && items'.isEmpty
  | .frozen items, .frozen items' => items.isEmpty && items'.isEmpty
  | .bytes content, .bytes content' => content = content' && content.length < 2
  | .collection .., .collection .. | .stream .., .stream .. | .generator .., .generator .. =>
    placeOf a = placeOf b && placeOf a ≠ 0
  | .named _, _ | .form _, _ | .module _, _ | .routine _, _ | .reference _, _ | .union false _, _
  | .annotated .., _ | .descriptor .., _ | .other .., _ => a.same b
  | _, _ => false

/-- An integer is in a range. -/
def isInRange (start stop step n : Int) : Bool :=
  (if 0 < step then start ≤ n && n < stop else stop < n && n ≤ start) && (n - start) % step = 0

/-- A part is in bytes. -/
def isInBytes (content : List UInt8) (m : Meaning) : Result Bool :=
  match m, m.integer? with
  | .bytes part, _ => .ok (Text.occurrence? part content).isSome
  | _, some n =>
    if n < 0 ∨ 256 ≤ n then .error (.invalid "byte must be in range(0, 256)")
    else .ok (content.contains (.ofNat n.toNat))
  | _, none => refuse ("a bytes-like object is required, not '" ++ m.typeName ++ "'")

/-- A meaning is among the items of another one. -/
def isIn (m container : Meaning) : Result Bool :=
  let among := fun items : List Meaning => (checkHashable [m]).map fun _ => isMember items m
  match container, container.text?, m.text?, m with
  | _, some s, some part, _ => .ok (Text.occurrence? part.toList s.toList).isSome
  | _, some _, none, _ => misused (.noPart m.typeName)
  | .collection .set _ items, _, _, .collection .set .. | .frozen items, _, _, .collection .set .. =>
    .ok (isMember items m)
  | .collection .set _ items, _, _, _ | .frozen items, _, _, _ => among items
  | .collection .dictionary _ items, _, _, _ | .view .keys _ items, _, _, _ =>
    among (keysOf items)
  | .tuple items, _, _, _ | .labelled _ _ items, _, _, _ | .collection .list _ items, _, _, _
  | .stream _ _ items, _, _, _ => .ok (isMember items m)
  | .view kind _ items, _, _, _ => .ok (isMember (viewed kind items) m)
  | .bytes content, _, _, _ => isInBytes content m
  | .range start stop step, _, _, _ =>
    match m.number?.bind Numeric.position? with
    | some (.at q) => .ok (q.den = 1 && isInRange start stop step q.num)
    | _ => .ok false
  | .applied .., _, _, _ => (itemsOf container).map fun items => isMember items m
  | .named c, _, _, _ =>
    misused (if c.make = .enumeration then .noOperation "'in'" m.typeName container.typeName
      else .noContainer container.typeName)
  | _, _, _, _ => misused (.noContainer container.typeName)

/-- What an operator of comparison finds. -/
def compareBy (operator : String) (left right : Meaning) : Result Bool :=
  match operator with
  | "==" => .ok (left.same right)
  | "!=" => .ok (!left.same right)
  | "is" => .ok (isIdentical left right)
  | "is not" => .ok (!isIdentical left right)
  | "in" => isIn left right
  | "not in" => (isIn left right).map (!·)
  | _ => order operator left right

end SheetExport.Annotation
