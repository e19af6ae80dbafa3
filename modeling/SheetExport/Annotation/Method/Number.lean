/-
**Functions of numbers.**

Integers have bits and bytes, floats and ratios are quotients of integers, and a ratio has others
with less denominators near to it. `callInteger?`, `callFloat?` and `callRatio?` have the functions
of the numbers of each kind but decimals, applied to the arguments at the places of their
parameters.
-/

import SheetExport.Annotation.Making
import SheetExport.Number.Hexadecimal

namespace SheetExport.Annotation

/-! ### Integers -/

/-- How many bits of a number are set. -/
def bitCount : Nat → Nat → Nat
  | 0, _ => 0
  | fuel + 1, n => n % 2 + bitCount fuel (n / 2)

/-- The bits that are needed for a number. -/
def bitLength (n : Int) : Nat := if n = 0 then 0 else n.natAbs.log2 + 1

/-- The order of bytes that an argument names: whether the first one is the greatest. -/
def byteOrder (title : String) (m : Option Meaning) : Result Bool :=
  match m, m.bind Meaning.text? with
  | none, _ | some _, some "big" => .ok true
  | some _, some "little" => .ok false
  | some _, some _ => .error (.invalid "byteorder must be either 'little' or 'big'")
  | some m, none => refuse (title ++ "() argument 'byteorder' must be str, not " ++ m.typeName)

/-- An integer in so many bytes. -/
def integerBytes (n : Int) (length : Nat) (isGreatFirst signed : Bool) : Result Meaning :=
  let tooGreat : Result Meaning := .error (.issue .overflow "int too big to convert")
  let room : Int := twoPow (8 * length)
  let fits := if signed then -room ≤ 2 * n && 2 * n < room else n < room
  if n < 0 && !signed then
    .error (.issue .overflow "can't convert negative int to unsigned")
  else if itemLimit < length then .error (.ofFault .outOfMemory)
  else if !fits then tooGreat
  else
    let parts := Encoding.bytesOfNumber length (n % room).toNat
    .ok (.bytes (if isGreatFirst then parts.reverse else parts))

/-- The integer that bytes write. -/
def integerOfBytes (content : List UInt8) (isGreatFirst signed : Bool) : Int :=
  let ordered := if isGreatFirst then content else content.reverse
  let n := ordered.foldl (fun n b => 256 * n + b.toNat) 0
  let room := twoPow (8 * content.length)
  if signed && room ≤ 2 * n then (n : Int) - room else n

/-- The bytes of an integer as the arguments of a call ask for them. -/
def toBytesOf (n : Int) (length order signed : Option Meaning) : Result Meaning := do
  let count ← sizeOfBytes length
  let isGreatFirst ← byteOrder "to_bytes" order
  if count < 0 then throw (.invalid "length argument must be non-negative")
  else integerBytes n count.toNat isGreatFirst (signed.any Meaning.isTruthy)
where
  sizeOfBytes (m : Option Meaning) : Result Int := m.elim (.ok 1) indexOf

/-- The integer of the bytes that the arguments of a call give. -/
def fromBytes (found : List (Option Meaning)) : Result Meaning :=
  match found with
  | [some m, order, signed] =>
    (byteOrder "from_bytes" order).bind fun isGreatFirst =>
      let content := match m, m.text?, itemsOf? m with
        | .bytes content, _, _ => Except.ok content
        | _, none, some items => items.mapM (byteOf "bytes")
        | _, _, _ => refuse ("cannot convert '" ++ m.typeName ++ "' object to bytes")
      content.map fun content =>
        .integer (integerOfBytes content isGreatFirst (signed.any Meaning.isTruthy))
  | _ => .ok .absent

/-- The quotient of integers that a ratio is. -/
def pairOf (q : Rat) : Meaning := .tuple [.integer q.num, .natural q.den]

/-- The result of a function of an integer. -/
def callInteger? (n : Int) (name : String) (found : List (Option Meaning)) :
    Option (Result Meaning) :=
  match name, found with
  | "as_integer_ratio", _ => some (.ok (pairOf n))
  | "bit_count", _ => some (.ok (.natural (bitCount (bitLength n) n.natAbs)))
  | "bit_length", _ => some (.ok (.natural (bitLength n)))
  | "conjugate", _ => some (.ok (.integer n))
  | "to_bytes", [length, order, signed] => some (toBytesOf n length order signed)
  | _, _ => none

/-! ### Floats -/

/-- The ratio that a float is. -/
def floatRatio (x : Float) : Result Rat :=
  match exactValue? x with
  | some q => .ok q
  | none =>
    if x.isNaN then .error (.invalid "cannot convert NaN to integer ratio")
    else .error (.issue .overflow "cannot convert Infinity to integer ratio")

/-- The result of a function of a float. -/
def callFloat? (x : Float) (name : String) : Option (Result Meaning) :=
  match name with
  | "as_integer_ratio" => some ((floatRatio x).map pairOf)
  | "conjugate" => some (.ok (.float x))
  | "hex" => some (.ok (.text (hexFloatText x)))
  | "is_integer" => some (.ok (.truth (floatInteger? x).isSome))
  | _ => none

/-- The float that hexadecimal digits write. -/
def fromHex (m : Meaning) : Result Meaning :=
  match m.text? with
  | none => refuse "bad argument type for built-in operation"
  | some s =>
    let isSpace := fun c : Char => c = ' ' || (9 ≤ c.toNat && c.toNat ≤ 13)
    match HexNumeral.read (Text.trimBy isSpace s.toList) with
    | .number x => .ok (.float x)
    | .tooLarge =>
      .error (.issue .overflow "hexadecimal value too large to represent as a float")
    | .malformed => .error (.invalid "invalid hexadecimal floating-point string")

/-! ### Ratios -/

/-- The last two convergents of a ratio whose denominators are within a limit, as numerators and
denominators, and what is left of the ratio. -/
def convergents (limit : Nat) : Nat → Int × Nat → Int × Nat → Int × Nat →
    (Int × Nat) × (Int × Nat) × Nat
  | 0, before, last, rest => (before, last, rest.2)
  | fuel + 1, before, last, rest =>
    let a := rest.1.fdiv rest.2
    let den := before.2 + a.toNat * last.2
    if rest.2 = 0 ∨ limit < den then (before, last, rest.2)
    else
      convergents limit fuel last (before.1 + a * last.1, den)
        (rest.2, (rest.1 - a * rest.2).toNat)

/-- The nearest ratio whose denominator is within a limit. -/
def nearestRatio (q : Rat) (limit : Nat) : Rat :=
  if q.den ≤ limit then q
  else
    let (before, last, _) := convergents limit (2 * q.den.log2 + 4) (0, 1) (1, 0) (q.num, q.den)
    let k := (limit - before.2) / last.2
    let first : Rat := (before.1 + k * last.1 : Int) / ((before.2 + k * last.2 : Nat) : Rat)
    let second : Rat := last.1 / ((last.2 : Nat) : Rat)
    let distance := fun r : Rat => if q < r then r - q else q - r
    if distance second ≤ distance first then second else first

/-- The nearest ratio within the limit that the arguments of a call give. -/
def limitDenominator (q : Rat) (limit : Meaning) : Result Meaning :=
  match limit.integer?, limit.number? with
  | some n, _ =>
    if n < 1 then .error (.invalid "max_denominator should be at least 1")
    else .ok (.value (.ratio (nearestRatio q n.toNat)))
  | none, some _ => .ok (.value (.ratio (nearestRatio q 1)))
  | none, none => misused (.noComparison "<" limit.typeName "int")

/-- The result of a function of a ratio. -/
def callRatio? (q : Rat) (name : String) (a : Arguments) : Option (Result Meaning) :=
  let self := Meaning.value (.ratio q)
  let bound := fun (names : List String) (defaults : List Meaning) =>
    bindNames ("Fraction." ++ name) ("self" :: names) defaults
      { a with plain := self :: a.plain }
  let alone := fun result : Meaning => some ((bound [] []).map fun _ => result)
  match name with
  | "as_integer_ratio" => alone (pairOf q)
  | "conjugate" => alone self
  | "limit_denominator" =>
    some ((bound ["max_denominator"] [.integer 1000000]).bind fun found =>
      limitDenominator q (found.getD 1 .absent))
  | _ => none

/-- A ratio, made of a float or of a decimal. -/
def ratioFrom (name : String) (a : Arguments) : Result Meaning :=
  let (parameter, kind) := if name = "from_float" then ("f", "floats") else ("dec", "Decimals")
  let whole := { a with plain := .named (classOfName "Fraction") :: a.plain }
  (bindNames ("Fraction." ++ name) ["cls", parameter] [] whole).bind fun found =>
    let m := found.getD 1 .absent
    let fits := match m.number? with
      | some (.whole _) => true
      | some (.float _) => name = "from_float"
      | some (.decimal _) => name = "from_decimal"
      | _ => false
    if fits then
      match m.number? with
      | some (.float x) => (floatRatio x).map fun q => .value (.ratio q)
      | _ => (toRatio m).map fun q => .value (.ratio q)
    else
      (shownText m).bind fun shown =>
        refuse ("Fraction." ++ name ++ "() only takes " ++ kind ++ ", not " ++ shown ++ " (" ++
          (classOf m).ownName ++ ")")

end SheetExport.Annotation
