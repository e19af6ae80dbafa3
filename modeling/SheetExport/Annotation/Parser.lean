/-
**From tokens to an expression.**

Operators bind by their power, loosest first: `or`, `and`, `not`, comparisons, `|`, `^`, `&`,
shifts, sums, products, signs, powers. Items in brackets are separated by commas, and a comma at the
end makes a tuple of a single item; a first item may be followed by loops instead. The parsing
functions call each other with less fuel each time; `Expression.ofText?` gives them more than any
text can need.
-/

import SheetExport.Annotation.Expression
import SheetExport.Annotation.Lexer
import SheetExport.Text.Quoted

namespace SheetExport.Annotation

/-- What is read off the front of a list of tokens, and the rest. -/
abbrev Parsed (α : Type) := Option (α × List Token)

/-! ### Operators -/

/-- The power of operators on two sides. -/
def operatorPowers : List (String × Nat) := [
  ("==", 4), ("!=", 4), ("<", 4), (">", 4), ("<=", 4), (">=", 4), ("|", 5), ("^", 6), ("&", 7),
  ("<<", 8), (">>", 8), ("+", 9), ("-", 9), ("*", 10), ("/", 10), ("//", 10), ("%", 10), ("@", 10),
  ("**", 12)]

/-- The power of comparisons. -/
def comparisonPower : Nat := 4

/-- The operator at the front, and its power. -/
def operatorAt? : List Token → Option (String × Nat × List Token)
  | .keyword "or" :: rest => some ("or", 1, rest)
  | .keyword "and" :: rest => some ("and", 2, rest)
  | .keyword "not" :: .keyword "in" :: rest => some ("not in", comparisonPower, rest)
  | .keyword "is" :: .keyword "not" :: rest => some ("is not", comparisonPower, rest)
  | .keyword "in" :: rest => some ("in", comparisonPower, rest)
  | .keyword "is" :: rest => some ("is", comparisonPower, rest)
  | .mark s :: rest => (operatorPowers.lookup s).map fun power => (s, power, rest)
  | _ => none

/-- The power of what stands on the right of an operator. -/
def rightPower (operator : String) (power : Nat) : Nat :=
  if operator = "**" then 11 else power + 1

/-- Two operands joined by an operator. -/
def join (operator : String) (left right : Expression) : Expression :=
  if operator = "or" then .disjunction left right
  else if operator = "and" then .conjunction left right
  else .operation operator left right

/-! ### Constants -/

/-- Texts of bytes at the front, joined into one. -/
def joinBytes : List Token → List UInt8 × List Token
  | .bytes cs :: rest =>
    let (more, rest) := joinBytes rest
    (cs ++ more, rest)
  | ts => ([], ts)

/-- A text of characters is next. -/
def startsText : List Token → Bool
  | .text _ :: _ | .format .opens :: _ => true
  | _ => false

/-- The constant at the front. Texts of bytes and of characters do not mix. -/
def constant? : List Token → Parsed Constant
  | .keyword "None" :: rest => some (.absent, rest)
  | .keyword "True" :: rest => some (.value (.bool true), rest)
  | .keyword "False" :: rest => some (.value (.bool false), rest)
  | .integer n :: rest => some (.value (.int n), rest)
  | .float x :: rest => some (.value (.float x), rest)
  | .imaginary x :: rest => some (.value (.complex ⟨0.0, x⟩), rest)
  | .mark "..." :: rest => some (.ellipsis, rest)
  | .bytes cs :: rest =>
    let (all, rest) := joinBytes (.bytes cs :: rest)
    if startsText rest then none
    else some (.bytes all, rest)
  | _ => none

/-- A text made of parts; a constant if all of them are. -/
def joinTexts (parts : List Expression) : Expression :=
  let texts := parts.mapM fun part => match part with
    | .constant (.value (.text s)) => some s
    | _ => none
  match texts with
  | some texts => .constant (.text (String.join texts))
  | none => .formatted parts

/-! ### Items -/

/-- What separates the items of brackets. -/
inductive ItemStyle
  /-- Items outside of all brackets. -/
  | outermost
  | items
  /-- Items of a subscript, among them ranges. -/
  | indices
  /-- Arguments, some of them by name. -/
  | arguments
  /-- Items, or keys and values. -/
  | pairs
deriving DecidableEq

/-- Items in brackets. -/
structure Items where
  expressions : List Expression
  /-- A comma stands after the last item. -/
  endsInComma : Bool
  /-- The only item is a loop. -/
  isLoop : Bool

/-- A single item that no comma follows, or a tuple. -/
def Items.toExpression (i : Items) : Expression :=
  match i.expressions, i.endsInComma with
  | [.spread e], false => .tuple [.spread e]
  | [only], false => only
  | several, _ => .tuple several

/-- What round brackets hold; a single item that is spread needs a comma. -/
def Items.group? (i : Items) : Option Expression :=
  match i.expressions, i.endsInComma, i.isLoop with
  | [loop], _, true => some (.comprehension none loop)
  | [.spread _], false, _ => none
  | _, _, _ => some i.toExpression

/-- The list in square brackets. -/
def Items.toList (i : Items) : Expression :=
  match i.expressions, i.isLoop with
  | [loop], true => .comprehension (some .list) loop
  | items, _ => .collection .list items

/-- A key with its value, or several of them. -/
def isPair : Expression → Bool
  | .pair .. | .spreadPairs _ => true
  | _ => false

/-- What a loop gives at its end. -/
def loopResult : Expression → Expression
  | .loop _ _ body => loopResult body
  | .filter _ body => loopResult body
  | e => e

/-- The set or the dictionary in curly brackets. -/
def Items.toBraced? (i : Items) : Option Expression :=
  match i.expressions, i.isLoop with
  | [loop], true =>
    some (.comprehension (some (if isPair (loopResult loop) then .dictionary else .set)) loop)
  | items, _ =>
    if items.all isPair then some (.collection .dictionary items)
    else if items.any isPair then none
    else some (.collection .set items)

/-- The arguments of a call: each name stands once, arguments without a name stand before those with
one, and those of a value before those of its keys. -/
def Items.arguments? (i : Items) : Option (List Expression) :=
  match i.expressions, i.isLoop with
  | [loop], true => some [.comprehension none loop]
  | items, _ => if inOrder [] false false items then some items else none
where
  inOrder (names : List String) (named keyed : Bool) : List Expression → Bool
    | [] => true
    | .argument name _ :: rest => !names.contains name && inOrder (name :: names) true keyed rest
    | .spreadPairs _ :: rest => inOrder names true true rest
    | .spread _ :: rest => !keyed && inOrder names named keyed rest
    | _ :: rest => !named && inOrder names named keyed rest

/-- An item that no loop can follow. -/
def isManifold : Expression → Bool
  | .spread _ | .spreadPairs _ | .argument .. => true
  | _ => false

/-- The closing bracket is next. -/
def closesWith (close : String) : List Token → Bool
  | .mark s :: _ => s = close
  | _ => false

/-! ### Parameters -/

/-- A parameter as it is written: the mark before it, its name, and its default. A mark may stand
without a name. -/
structure WrittenParameter where
  mark : String
  name : String
  default : Option Expression

/-- The parameters so far, among them that a mark without a name stands for. -/
structure Parameters where
  passing : Passing
  parameters : List Parameter
  /-- A name has to follow. -/
  isOpen : Bool

/-- One more parameter, if it may follow. -/
def Parameters.add? (ps : Parameters) (p : WrittenParameter) : Option Parameters :=
  let add := fun passing next isDefaulted => some (⟨next,
    ps.parameters ++ [⟨p.name, passing, isDefaulted⟩], false⟩ : Parameters)
  let ended := ps.parameters.any (·.passing = .allByName)
  if ended || (p.name ≠ "" && ps.parameters.any (·.name = p.name)) then none
  else
    match p.mark with
    | "/" =>
      if ps.passing = .byEither && !ps.parameters.isEmpty &&
          ps.parameters.all (·.passing = .byEither) then
        some ⟨.byEither, ps.parameters.map fun p => { p with passing := .byPosition }, false⟩
      else none
    | "*" =>
      if ps.passing = .byName then none
      else if p.name = "" then some ⟨.byName, ps.parameters, true⟩
      else add .allByPosition .byName false
    | "**" => if ps.isOpen then none else add .allByName .byName false
    | _ =>
      if ps.passing = .byEither && p.default.isNone && ps.parameters.any (·.hasDefault) then none
      else add ps.passing ps.passing p.default.isSome

/-- The parameters that are written one after the other. -/
def Parameters.ofWritten? (written : List WrittenParameter) : Option (List Parameter) :=
  match written.foldlM Parameters.add? ⟨.byEither, [], false⟩ with
  | some ps => if ps.isOpen then none else some ps.parameters
  | none => none

/-! ### Expressions -/

mutual

/-- An expression, or one with a name for its value. -/
def parseNamed : Nat → List Token → Parsed Expression
  | 0, _ => none
  | fuel + 1, .name s :: .mark ":=" :: rest =>
    (parseExpression fuel rest).map fun (e, rest) => (.assignment s e, rest)
  | fuel + 1, ts => parseExpression fuel ts

/-- An expression. -/
def parseExpression : Nat → List Token → Parsed Expression
  | 0, _ => none
  | fuel + 1, .keyword "lambda" :: rest =>
    match parseParameters fuel rest with
    | some (written, rest) =>
      match Parameters.ofWritten? written, parseExpression fuel rest with
      | some parameters, some (body, rest) =>
        some (.function parameters (written.filterMap (·.default)) body, rest)
      | _, _ => none
    | none => none
  | fuel + 1, ts =>
    match parseOperators fuel 1 ts with
    | some (yes, .keyword "if" :: rest) =>
      match parseOperators fuel 1 rest with
      | some (condition, .keyword "else" :: rest) =>
        (parseExpression fuel rest).map fun (no, rest) => (.choice condition yes no, rest)
      | _ => none
    | other => other

/-- The parameters of a function up to a colon. -/
def parseParameters : Nat → List Token → Parsed (List WrittenParameter)
  | 0, _ => none
  | _, .mark ":" :: rest => some ([], rest)
  | fuel + 1, ts =>
    match parseParameter fuel ts with
    | some (p, .mark "," :: rest) =>
      (parseParameters fuel rest).map fun (others, rest) => (p :: others, rest)
    | some (p, .mark ":" :: rest) => some ([p], rest)
    | _ => none

/-- A parameter of a function. -/
def parseParameter : Nat → List Token → Parsed WrittenParameter
  | 0, _ => none
  | fuel + 1, ts =>
    match ts with
    | .name s :: .mark "=" :: rest =>
      (parseExpression fuel rest).map fun (e, rest) => (⟨"", s, some e⟩, rest)
    | .name s :: rest => some (⟨"", s, none⟩, rest)
    | .mark m :: .name s :: rest =>
      if m = "*" ∨ m = "**" then some (⟨m, s, none⟩, rest) else none
    | .mark m :: rest => if m = "*" ∨ m = "/" then some (⟨m, "", none⟩, rest) else none
    | _ => none

/-- Operands joined by operators of at least some power. -/
def parseOperators : Nat → Nat → List Token → Parsed Expression
  | 0, _, _ => none
  | fuel + 1, power, ts =>
    let left : Parsed Expression := match ts with
      | .keyword "not" :: rest =>
        if power ≤ 3 then (parseOperators fuel 3 rest).map fun (e, rest) => (.negation e, rest)
        else none
      | .mark sign :: rest =>
        if sign = "-" ∨ sign = "+" ∨ sign = "~" then
          (parseOperators fuel 11 rest).map fun (e, rest) => (.signed sign e, rest)
        else parsePrimary fuel ts
      | _ => parsePrimary fuel ts
    left.bind fun (e, rest) => parseFurther fuel power e rest

/-- Further operators of at least some power after an operand. -/
def parseFurther : Nat → Nat → Expression → List Token → Parsed Expression
  | 0, _, _, _ => none
  | fuel + 1, power, left, ts =>
    match operatorAt? ts with
    | none => some (left, ts)
    | some (operator, itsPower, rest) =>
      if itsPower < power then some (left, ts)
      else if itsPower = comparisonPower then
        (parseComparisons fuel ts).bind fun (further, rest) =>
          let all := .comparison (further.map Prod.fst) (left :: further.map Prod.snd)
          parseFurther fuel power all rest
      else
        (parseOperators fuel (rightPower operator itsPower) rest).bind fun (right, rest) =>
          parseFurther fuel power (join operator left right) rest

/-- Comparisons one after the other: their operators, and what stands on the right of them. -/
def parseComparisons : Nat → List Token → Parsed (List (String × Expression))
  | 0, _ => none
  | fuel + 1, ts =>
    match operatorAt? ts with
    | none => some ([], ts)
    | some (operator, power, rest) =>
      if power ≠ comparisonPower then some ([], ts)
      else
        (parseOperators fuel (comparisonPower + 1) rest).bind fun (e, rest) =>
          (parseComparisons fuel rest).map
            fun (further, rest) => ((operator, e) :: further, rest)

/-- An operand with what is applied to it. -/
def parsePrimary : Nat → List Token → Parsed Expression
  | 0, _ => none
  | fuel + 1, ts => (parseAtom fuel ts).bind fun (e, rest) => parseTrailers fuel e rest

/-- A name, a constant or something in brackets. -/
def parseAtom : Nat → List Token → Parsed Expression
  | 0, _ => none
  | fuel + 1, ts =>
    match ts with
    | .name s :: rest => some (.name s, rest)
    | .mark "(" :: rest =>
      (parseBrackets fuel .items ")" rest).bind
        fun (items, rest) => items.group?.map fun e => (e, rest)
    | .mark "[" :: rest =>
      (parseBrackets fuel .items "]" rest).map fun (items, rest) => (items.toList, rest)
    | .mark "\x7b" :: rest =>
      (parseBrackets fuel .pairs "\x7d" rest).bind
        fun (items, rest) => items.toBraced?.map fun e => (e, rest)
    | _ =>
      if startsText ts then (parseTexts fuel ts).map fun (parts, rest) => (joinTexts parts, rest)
      else (constant? ts).map fun (c, rest) => (.constant c, rest)

/-- The parts of the texts at the front. -/
def parseTexts : Nat → List Token → Parsed (List Expression)
  | 0, _ => none
  | fuel + 1, ts =>
    match ts with
    | .text cs :: rest =>
      (parseTexts fuel rest).map
        fun (others, rest) => (.constant (.text (String.ofList cs)) :: others, rest)
    | .format .opens :: rest =>
      match parsePieces fuel rest with
      | some (pieces, .format .closes :: rest) =>
        (parseTexts fuel rest).map fun (others, rest) => (pieces ++ others, rest)
      | _ => none
    | .bytes _ :: _ => none
    | _ => some ([], ts)

/-- The pieces of a text with fields. -/
def parsePieces : Nat → List Token → Parsed (List Expression)
  | 0, _ => none
  | fuel + 1, ts =>
    match ts with
    | .text cs :: rest =>
      (parsePieces fuel rest).map
        fun (others, rest) => (.constant (.text (String.ofList cs)) :: others, rest)
    | .format .fieldOpens :: rest =>
      (parseField fuel rest).bind fun (field, rest) =>
        (parsePieces fuel rest).map fun (others, rest) => (field :: others, rest)
    | _ => some ([], ts)

/-- A field after its opening. -/
def parseField : Nat → List Token → Parsed Expression
  | 0, _ => none
  | fuel + 1, ts =>
    (parseAtom fuel ts).bind fun (e, rest) =>
      let (conversion, rest) := match rest with
        | .format (.converts c) :: rest => (some c, rest)
        | rest => (none, rest)
      match rest with
      | .format .fieldCloses :: rest =>
        some (.field e conversion (.constant (.text "")), rest)
      | .format .laysOut :: rest =>
        match parsePieces fuel rest with
        | some (pieces, .format .fieldCloses :: rest) =>
          some (.field e conversion (joinTexts pieces), rest)
        | _ => none
      | _ => none

/-- Subscripts, attributes and calls after an operand. -/
def parseTrailers : Nat → Expression → List Token → Parsed Expression
  | 0, _, _ => none
  | fuel + 1, e, ts =>
    match ts with
    | .mark "[" :: .mark "]" :: _ => none
    | .mark "[" :: rest =>
      (parseBrackets fuel .indices "]" rest).bind
        fun (items, rest) => parseTrailers fuel (.subscript e items.toExpression) rest
    | .mark "(" :: rest =>
      match parseBrackets fuel .arguments ")" rest with
      | some (items, rest) =>
        items.arguments?.bind fun arguments => parseTrailers fuel (.call e arguments) rest
      | none => none
    | .mark "." :: .name s :: rest => parseTrailers fuel (.member e s) rest
    | _ => some (e, ts)

/-- One item in brackets, or a key and its value. -/
def parseItem : Nat → ItemStyle → List Token → Parsed Expression
  | 0, _, _ => none
  | fuel + 1, style, ts =>
    match style, ts with
    | .outermost, _ => parseExpression fuel ts
    | .arguments, .mark "*" :: rest | .indices, .mark "*" :: rest =>
      (parseExpression fuel rest).map fun (e, rest) => (.spread e, rest)
    | _, .mark "*" :: rest =>
      (parseOperators fuel 5 rest).map fun (e, rest) => (.spread e, rest)
    | .arguments, .mark "**" :: rest =>
      (parseExpression fuel rest).map fun (e, rest) => (.spreadPairs e, rest)
    | .pairs, .mark "**" :: rest =>
      (parseOperators fuel 5 rest).map fun (e, rest) => (.spreadPairs e, rest)
    | .arguments, .name s :: .mark "=" :: rest =>
      (parseExpression fuel rest).map fun (e, rest) => (.argument s e, rest)
    | .indices, .mark ":" :: _ => parseSlice fuel (.constant .absent) ts
    | _, _ =>
      match style, parseNamed fuel ts with
      | .indices, some (e, .mark ":" :: rest) => parseSlice fuel e (.mark ":" :: rest)
      | .pairs, some (key, .mark ":" :: rest) =>
        (parseExpression fuel rest).map fun (v, rest) => (.pair key v, rest)
      | _, other => other

/-- A range of indices after its start. -/
def parseSlice : Nat → Expression → List Token → Parsed Expression
  | 0, _, _ => none
  | fuel + 1, start, ts =>
    (parseBound fuel ts).bind fun (stop, rest) =>
      (parseBound fuel rest).map fun (step, rest) => (.slice start stop step, rest)

/-- A bound of a range after a colon; it is absent if there is no colon. -/
def parseBound : Nat → List Token → Parsed Expression
  | 0, _ => none
  | fuel + 1, ts =>
    match ts with
    | .mark ":" :: rest =>
      if closesWith "]" rest || closesWith "," rest || closesWith ":" rest then
        some (.constant .absent, rest)
      else parseExpression fuel rest
    | _ => some (.constant .absent, ts)

/-- What stands in brackets up to the closing one. -/
def parseBrackets : Nat → ItemStyle → String → List Token → Parsed Items
  | 0, _, _, _ => none
  | fuel + 1, style, close, ts =>
    if closesWith close ts then some (⟨[], false, false⟩, ts.drop 1)
    else
      match parseItem fuel style ts with
      | some (first, .keyword "for" :: rest) =>
        if style = .outermost ∨ style = .indices ∨ isManifold first then none
        else
          (parseLoop fuel first (.keyword "for" :: rest)).bind fun (loop, rest) =>
            if closesWith close rest then some (⟨[loop], false, true⟩, rest.drop 1) else none
      | some (first, rest) => parseItems fuel style close [first] rest
      | none => none

/-- Further items after the given ones, up to the closing bracket. -/
def parseItems : Nat → ItemStyle → String → List Expression → List Token → Parsed Items
  | 0, _, _, _, _ => none
  | fuel + 1, style, close, items, ts =>
    if closesWith close ts then some (⟨items, false, false⟩, ts.drop 1)
    else
      match ts with
      | .mark "," :: rest =>
        if closesWith close rest then some (⟨items, true, false⟩, rest.drop 1)
        else
          (parseItem fuel style rest).bind
            fun (item, rest) => parseItems fuel style close (items ++ [item]) rest
      | _ => none

/-- Loops and conditions after what they give. -/
def parseLoop : Nat → Expression → List Token → Parsed Expression
  | 0, _, _ => none
  | fuel + 1, result, ts =>
    match ts with
    | .keyword "for" :: rest =>
      match parseTargets fuel rest with
      | some (target, .keyword "in" :: rest) =>
        (parseOperators fuel 1 rest).bind fun (items, rest) =>
          (parseLoop fuel result rest).map fun (body, rest) => (.loop target items body, rest)
      | _ => none
    | .keyword "if" :: rest =>
      (parseOperators fuel 1 rest).bind fun (condition, rest) =>
        (parseLoop fuel result rest).map fun (body, rest) => (.filter condition body, rest)
    | _ => some (result, ts)

/-- What the items of a loop are called. -/
def parseTargets : Nat → List Token → Parsed Target
  | 0, _ => none
  | fuel + 1, ts =>
    match parseTarget fuel ts with
    | some (first, .mark "," :: rest) =>
      (parseTargetList fuel "in" rest).map
        fun (others, rest) => (.several (first :: others), rest)
    | some (.rest _, _) => none
    | other => other

/-- A name, or names in brackets. -/
def parseTarget : Nat → List Token → Parsed Target
  | 0, _ => none
  | fuel + 1, ts =>
    match ts with
    | .name s :: rest => some (.name s, rest)
    | .mark "*" :: .name s :: rest => some (.rest s, rest)
    | .mark "(" :: rest =>
      match parseTarget fuel rest with
      | some (.rest s, .mark "," :: rest) =>
        (parseTargetList fuel ")" rest).map
          fun (others, rest) => (.several (.rest s :: others), rest)
      | some (.rest _, _) => none
      | some (first, .mark ")" :: rest) => some (first, rest)
      | some (first, .mark "," :: rest) =>
        (parseTargetList fuel ")" rest).map
          fun (others, rest) => (.several (first :: others), rest)
      | _ => none
    | .mark "[" :: rest =>
      (parseTargetList fuel "]" rest).map fun (all, rest) => (.several all, rest)
    | _ => none

/-- What the parts of items are called, up to a closing bracket or the word that ends them. -/
def parseTargetList : Nat → String → List Token → Parsed (List Target)
  | 0, _, _ => none
  | fuel + 1, close, ts =>
    let ended : Option (List Token) := match ts with
      | .keyword "in" :: _ => if close = "in" then some ts else none
      | .mark s :: rest => if s = close then some rest else none
      | _ => none
    match ended with
    | some rest => some ([], rest)
    | none =>
      match parseTarget fuel ts with
      | some (t, .mark "," :: rest) =>
        (parseTargetList fuel close rest).map fun (others, rest) => (t :: others, rest)
      | some (t, rest) =>
        match close, rest with
        | "in", .keyword "in" :: _ => some ([t], rest)
        | _, .mark s :: more => if s = close then some ([t], more) else none
        | _, _ => none
      | none => none

end

/-- The fuel for a list of tokens. -/
def parsingFuel (ts : List Token) : Nat := 16 * (ts.length + 1)

/-- The expression of a list of tokens; several separated by commas are a tuple. -/
def Expression.ofTokens? (ts : List Token) : Option Expression :=
  let ended := ts ++ [.mark ";"]
  match parseBrackets (parsingFuel ended) .outermost ";" ended with
  | some (items, []) =>
    if items.expressions.isEmpty then none
    else some items.toExpression |>.filter (assignsFreely false [])
  | _ => none

/-- The expression that a text writes. A star before all of it stands for the first of the items
that are spread. -/
def Expression.ofText? (s : String) : Option Expression :=
  let cs := s.toList
  let whole := if cs.head? = some '*' then '(' :: cs ++ ",)[0]".toList else cs
  (tokenize? whole).bind ofTokens?

end SheetExport.Annotation
