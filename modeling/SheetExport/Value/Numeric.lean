/-
**Numbers of mixed kinds.**

Integers, floats, complex numbers, decimals and exact ratios are calculated with by the same
operators (`Numeric.operate?`). Two kinds meet in the wider one of them: integers in all others,
ratios in floats and complex numbers, floats in complex numbers. Decimals meet integers only.
Comparison goes by the exact values, so that a float is equal to an integer only if it is that
integer.

Numbers are equal across their kinds, texts are equal to members of enumerations of the same text,
and temporal values only to those of their own kind (`Value.same`).
-/

import SheetExport.Number.Binary
import SheetExport.Number.Decimal.Form
import SheetExport.Number.Decimal.Power
import SheetExport.Value.Basic

namespace SheetExport

/-- A number that is calculated with. -/
inductive Numeric
  | whole (n : Int)
  | float (x : Float)
  | complex (z : Complex)
  | decimal (d : Decimal)
  | ratio (q : Rat)

namespace Numeric

/-! ### Conversions -/

/-- A value is a number; truth values count as integers. -/
def ofValue? : Value → Option Numeric
  | .bool b => some (whole (if b then 1 else 0))
  | .int n | .intMember _ n => some (whole n)
  | .float x => some (float x)
  | .complex z => some (complex z)
  | .decimal d => some (decimal d)
  | .ratio q => some (ratio q)
  | _ => none

/-- A number as a value. -/
def toValue : Numeric → Value
  | whole n => .int n
  | float x => .float x
  | complex z => .complex z
  | decimal d => .decimal d
  | ratio q => .ratio q

/-- A result that is too great for a float. -/
def tooGreat : Fault := .issue .overflow "(34, 'Numerical result out of range')"

/-- The float nearest to an integer. -/
def floatOfInteger (n : Int) : Except Fault Float :=
  let x := signedFloat (decide (n < 0)) (nearestFloat n.natAbs 1)
  if x.isFinite then .ok x else .error .beyondFloats

/-- The float nearest to a quotient of integers. -/
def floatOfRatio (q : Rat) : Except Fault Float :=
  let x := ratioFloat q
  if x.isFinite then .ok x
  else .error (.issue .overflow "integer division result too large for a float")

/-- The float of a number that has an order; none of a complex number. -/
def toFloat? : Numeric → Option (Except Fault Float)
  | whole n => some (floatOfInteger n)
  | float x => some (.ok x)
  | complex _ => none
  | decimal d =>
    some (d.toFloat?.elim (.error (.issue .value "cannot convert signaling NaN to float")) .ok)
  | ratio q => some (floatOfRatio q)

/-! ### Integers -/

/-- A quotient has no divisor but zero. -/
def noDivision {α : Type} (text : String) : Except Fault α := .error (.issue .division text)

/-- The most binary digits of an integer that is worked out. -/
def widthLimit : Nat := twoPow 24

/-- An integer to a natural power. -/
def wholePower (a : Int) (b : Nat) : Except Fault Numeric :=
  if 1 < a.natAbs && widthLimit < (a.natAbs.log2 + 1) * b then .error .outOfMemory
  else
    let size : Int := Nat.pow a.natAbs b
    .ok (whole (if a < 0 && b % 2 = 1 then -size else size))

/-- A power of zero that does not exist. -/
def zeroPower {α : Type} : Except Fault α :=
  noDivision "0.0 cannot be raised to a negative power"

/-- The power of a complex number. -/
def complexPower (z w : Complex) : Except Fault Numeric :=
  match z.pow? w with
  | none => noDivision "0.0 to a negative or complex power"
  | some r =>
    if r.re.isInf || r.im.isInf then .error (.issue .overflow "complex exponentiation")
    else .ok (complex r)

/-- The power of a float; that of a negative one may be complex. -/
def floatPower (x y : Float) : Except Fault Numeric :=
  if x == 0.0 && y < 0.0 then zeroPower
  else if x < 0.0 && x.isFinite && y.isFinite && !(y == y.floor) then
    complexPower (.ofFloat x) (.ofFloat y)
  else
    let power := Float.pow x y
    if power.isInf && x.isFinite && y.isFinite then .error tooGreat else .ok (float power)

/-- What an operator makes of two integers. -/
def operateWhole? (operator : String) (a b : Int) : Option (Except Fault Numeric) :=
  let result := fun n : Int => some (.ok (whole n))
  match operator with
  | "+" => result (a + b)
  | "-" => result (a - b)
  | "*" => result (a * b)
  | "&" => result (bothBits a b)
  | "|" => result (eitherBits a b)
  | "^" => result (differingBits a b)
  | "//" =>
    if b = 0 then some (noDivision "integer division or modulo by zero") else result (a.fdiv b)
  | "%" => if b = 0 then some (noDivision "integer modulo by zero") else result (a.fmod b)
  | "/" =>
    if b = 0 then some (noDivision "division by zero")
    else some ((floatOfRatio (a / b)).map float)
  | "<<" =>
    if b < 0 then some (.error (.issue .value "negative shift count"))
    else if a = 0 then result 0
    else if twoPow 60 ≤ b.toNat then some (.error (.issue .overflow "too many digits in integer"))
    else if widthLimit < b.toNat then some (.error .outOfMemory)
    else result (shiftedLeft a b.toNat)
  | ">>" =>
    if b < 0 then some (.error (.issue .value "negative shift count"))
    else result (if a.natAbs.log2 < b.toNat then (if a < 0 then -1 else 0)
      else shiftedRight a b.toNat)
  | "**" =>
    if 0 ≤ b then some (wholePower a b.toNat)
    else some ((floatOfInteger a).bind fun x => (floatOfInteger b).bind fun y => floatPower x y)
  | _ => none

/-! ### Other kinds -/

/-- What an operator makes of two floats. -/
def operateFloats? (operator : String) (x y : Float) : Option (Except Fault Numeric) :=
  let divided := fun (z : Float) (text : String) =>
    some (if y == 0.0 then noDivision text else .ok (float z))
  match operator with
  | "+" => some (.ok (float (x + y)))
  | "-" => some (.ok (float (x - y)))
  | "*" => some (.ok (float (x * y)))
  | "/" => divided (x / y) "float division by zero"
  | "//" => divided (floorQuotient x y).1 "float floor division by zero"
  | "%" => divided (floorQuotient x y).2 "float modulo"
  | "**" => some (floatPower x y)
  | _ => none

/-- What an operator makes of two complex numbers. -/
def operateComplex? (operator : String) (z w : Complex) : Option (Except Fault Numeric) :=
  match operator with
  | "+" => some (.ok (complex (z.add w)))
  | "-" => some (.ok (complex (z.sub w)))
  | "*" => some (.ok (complex (z.mul w)))
  | "/" => some ((z.div? w).elim (noDivision "complex division by zero") fun q => .ok (complex q))
  | "**" => some (complexPower z w)
  | _ => none

/-- What an operator makes of two decimals. -/
def operateDecimals? (operator : String) (a b : Decimal) : Option (Except Fault Numeric) :=
  let result := fun r : Except Decimal.Signal Decimal =>
    some ((r.mapError Fault.signalled).map decimal)
  match operator with
  | "+" => result (a.add b)
  | "-" => result (a.sub b)
  | "*" => result (a.mul b)
  | "/" => result (a.div b)
  | "//" => result (a.wholeDiv b)
  | "%" => result (a.rem b)
  | "**" => result (a.pow b)
  | _ => none

/-- A ratio of integers has no denominator. -/
def noDenominator {α : Type} (numerator : Int) : Except Fault α :=
  noDivision ("Fraction(" ++ toString numerator ++ ", 0)")

/-- The power of a ratio to an integer. -/
def ratioPower (q : Rat) (n : Int) : Except Fault Numeric :=
  let limit := (max q.num.natAbs.log2 q.den.log2 + 1) * n.natAbs
  if widthLimit < limit && q.num.natAbs ≠ q.den then .error .outOfMemory
  else
    let power := fun a : Int => (Nat.pow a.natAbs n.natAbs : Int) *
      (if a < 0 && n % 2 = 1 then -1 else 1)
    if 0 ≤ n then .ok (ratio (power q.num / power q.den))
    else if q.num = 0 then noDenominator (power q.den)
    else .ok (ratio (power q.den / power q.num))

/-- What an operator makes of two ratios. -/
def operateRatios? (operator : String) (q r : Rat) : Option (Except Fault Numeric) :=
  match operator with
  | "+" => some (.ok (ratio (q + r)))
  | "-" => some (.ok (ratio (q - r)))
  | "*" => some (.ok (ratio (q * r)))
  | "/" =>
    some (if r.num = 0 then noDenominator q.num.sign else .ok (ratio (q / r)))
  | "//" =>
    some (if r.num = 0 then noDivision "integer division or modulo by zero"
      else .ok (whole (q / r).floor))
  | "%" =>
    some (if r.num = 0 then noDivision "integer modulo by zero"
      else .ok (ratio (q - r * (q / r).floor)))
  | "**" =>
    if r.den = 1 then some (ratioPower q r.num)
    else
      some ((floatOfRatio q).bind fun x => (floatOfRatio r).bind fun y => floatPower x y)
  | _ => none

/-- A number as a complex one; none of a decimal. -/
def toComplex? : Numeric → Option (Except Fault Complex)
  | complex z => some (.ok z)
  | decimal _ => none
  | n => n.toFloat?.map fun x => x.map Complex.ofFloat

/-- Is neither a complex number nor a decimal. -/
def isReal : Numeric → Bool
  | complex _ | decimal _ => false
  | _ => true

/-- What an operator makes of two numbers, if it makes anything of numbers of their kinds. -/
def operate? (operator : String) (a b : Numeric) : Option (Except Fault Numeric) :=
  let together := fun {α : Type} (convert : Numeric → Option (Except Fault α))
      (operation? : String → α → α → Option (Except Fault Numeric)) =>
    match convert a, convert b with
    | some x, some y =>
      match x, y with
      | .ok x, .ok y => operation? operator x y
      | .error fault, _ | _, .error fault => some (.error fault)
    | _, _ => none
  match a, b with
  | whole m, whole n => operateWhole? operator m n
  | decimal d, decimal e => operateDecimals? operator d e
  | decimal d, whole n => operateDecimals? operator d (.ofInt n)
  | whole n, decimal d => operateDecimals? operator (.ofInt n) d
  | ratio q, ratio r => operateRatios? operator q r
  | ratio q, whole n => operateRatios? operator q n
  | whole n, ratio q =>
    if operator = "**" && q.den = 1 && 0 ≤ q.num then operateWhole? operator n q.num
    else operateRatios? operator n q
  | _, _ =>
    if a.isReal && b.isReal then together toFloat? operateFloats?
    else together toComplex? operateComplex?

/-! ### Signs -/

/-- A number with a sign; a complement is one of integers only. -/
def signed? (sign : String) : Numeric → Option (Except Fault Numeric)
  | whole n => some (.ok (whole (if sign = "-" then -n else if sign = "~" then -n - 1 else n)))
  | float x => if sign = "~" then none else some (.ok (float (if sign = "-" then -x else x)))
  | complex z => if sign = "~" then none else some (.ok (complex (if sign = "-" then z.negated else z)))
  | ratio q => if sign = "~" then none else some (.ok (ratio (if sign = "-" then -q else q)))
  | decimal d =>
    if sign = "~" then none
    else some (((if sign = "-" then d.negated else d.plus).mapError Fault.signalled).map decimal)

/-- The absolute value of a number. -/
def magnitude : Numeric → Except Fault Numeric
  | whole n => .ok (whole n.natAbs)
  | float x => .ok (float x.abs)
  | complex z =>
    let size := z.magnitude
    if size.isInf && z.re.isFinite && z.im.isFinite then
      .error (.issue .overflow "absolute value too large")
    else .ok (float size)
  | ratio q => .ok (ratio (if q.num < 0 then -q else q))
  | decimal d => (d.magnitude.mapError Fault.signalled).map decimal

/-! ### Comparison -/

/-- The place of a number among all numbers, unless it is undefined or complex. -/
def position? : Numeric → Option Decimal.Position
  | whole n => some (.at n)
  | ratio q => some (.at q)
  | decimal d => d.position?
  | complex _ => none
  | float x =>
    match exactValue? x with
    | some q => some (.at q)
    | none => if x.isNaN then none else some (if x < 0.0 then .least else .greatest)

/-- Equality of numbers. -/
def same (a b : Numeric) : Bool :=
  match a, b with
  | whole m, whole n => m = n
  | float x, float y => x == y
  | complex z, complex w => z.same w
  | complex z, other | other, complex z => z.im == 0.0 && atPlace other (float z.re)
  | _, _ => atPlace a b
where
  atPlace (a b : Numeric) : Bool :=
    match a.position?, b.position? with
    | some p, some q => p.compare q == .eq
    | _, _ => false

/-- The order of two numbers, if they have one: complex numbers have none, and undefined decimals
none that can be asked for. -/
inductive Compared
  | ordered (o : Ordering)
  /-- One of the numbers is undefined, so that no order holds. -/
  | unordered
  | refused (fault : Fault)

/-- The order of two numbers; nothing if numbers of their kinds have none. -/
def compare? (a b : Numeric) : Option Compared :=
  let undefinedDecimal := fun n : Numeric => match n with
    | decimal d => d.isUndefined
    | _ => false
  match a, b with
  | complex _, _ | _, complex _ => none
  | whole m, whole n => some (.ordered (compare m n))
  | _, _ =>
    match a.position?, b.position? with
    | some p, some q => some (.ordered (p.compare q))
    | _, _ =>
      some (if undefinedDecimal a || undefinedDecimal b ||
          ((a matches decimal _) || (b matches decimal _)) then
          .refused (.signalled .invalidOperation)
        else .unordered)

/-! ### Rounding -/

/-- The integer that a number is without its fraction. -/
def truncated (n : Numeric) : Except Fault Int :=
  match n with
  | whole n => .ok n
  | ratio q => .ok (q.num.tdiv q.den)
  | float x =>
    match SheetExport.truncated? x with
    | some n => .ok n
    | none =>
      if x.isNaN then .error (.issue .value "cannot convert float NaN to integer")
      else .error (.issue .overflow "cannot convert float infinity to integer")
  | decimal d =>
    match d.toInteger? .down with
    | some n => .ok n
    | none =>
      if d.isUndefined then .error (.issue .value "cannot convert NaN to integer")
      else .error (.issue .overflow "cannot convert Infinity to integer")
  | complex _ => .error (.issue .type ("int() argument must be a string, a bytes-like object " ++
      "or a real number, not 'complex'"))

/-- A quotient rounded to the nearest integer, a tie going to the even one. -/
def nearestInteger (q : Rat) : Int := Duration.nearest q

/-- A quotient rounded to so many places after the point, or before it. -/
def toPlaces (q : Rat) (places : Int) : Rat :=
  let unit : Rat := tenPow places.toNat / tenPow (-places).toNat
  nearestInteger (q * unit) / unit

/-- The most places that a float can have. -/
def floatPlaces : Int := 323

/-- A float rounded to so many places. -/
def roundedFloat (x : Float) (places : Int) : Except Fault Float :=
  match exactValue? x with
  | none => .ok x
  | some q =>
    if floatPlaces < places then .ok x
    else if places < -308 then .ok (withSignOf 0.0 x)
    else
      let near := withSignOf (ratioFloat (toPlaces q places)) x
      if near.isFinite then .ok near
      else .error (.issue .overflow "rounded value too large to represent")

end Numeric

end SheetExport

namespace SheetExport.Value

/-! ### Equal values -/

/-- Equality of values that are neither numbers nor texts. -/
def sameOther (a b : Value) : Bool :=
  match a, b with
  | null, null => true
  | date d, date e => d = e
  | dateTime d, dateTime e => d = e
  | time t, time u => t = u
  | duration d, duration e => d = e
  | member label v, member label' w =>
    label = label' && v.literal.toOption = w.literal.toOption
  | code type shown, code type' shown' => type = type' && shown.toOption = shown'.toOption
  | _, _ => false

/-- Equality of values. -/
def same (a b : Value) : Bool :=
  match Numeric.ofValue? a, Numeric.ofValue? b, a.textual?, b.textual? with
  | some m, some n, _, _ => m.same n
  | none, none, some s, some t => s = t
  | none, none, none, none => sameOther a b
  | _, _, _, _ => false

end SheetExport.Value
