/-
**Roots, exponentials, logarithms and powers of decimals.**

Roots are exact where they can be. Exponentials and logarithms are worked out in fixed-point
numbers with many more places than are kept (`Fixed`), by series whose terms get smaller at every
step, and rounded once.
-/

import SheetExport.Number.Decimal.Arithmetic
import SheetExport.Number.Modular
import SheetExport.Number.Binary

namespace SheetExport

/-! ### Fixed-point numbers -/

namespace Fixed

/-- How many decimal places fixed-point numbers have. -/
def places : Nat := 80

/-- The fixed-point number that is one. -/
def one : Int := tenPow places

/-- The product of two fixed-point numbers. -/
def mul (a b : Int) : Int := (a * b).tdiv one

/-- The sum of a series of fixed-point terms, from a term on; the next one comes of the one before
and its number. It ends at the first term that is nothing. -/
def series (next : Int → Nat → Int) : Nat → Nat → Int → Int
  | 0, _, _ => 0
  | fuel + 1, n, term =>
    if term = 0 then 0 else term + series next fuel (n + 1) (next term (n + 1))

/-- The most terms of a series. -/
def mostTerms : Nat := 1000

/-- Half the logarithm of the quotient of one and more than one by one and less: `z` is the
difference. -/
def areaTangent (z : Int) : Int :=
  let square := mul z z
  odd square z mostTerms 0 z
where
  odd (square z : Int) : Nat → Nat → Int → Int
    | 0, _, _ => 0
    | fuel + 1, n, power =>
      if power = 0 then 0
      else power.tdiv (2 * n + 1) + odd square z fuel (n + 1) (mul power square)

/-- The logarithm of two. -/
def logTwo : Int := 2 * areaTangent (one / 3)

/-- The logarithm of a fixed-point number between one and ten. -/
def log (m : Int) : Int :=
  let halvings := (List.range 4).find? fun k => m ≤ (3 * one / 2) * twoPow k
  let k := halvings.getD 0
  let x := m / twoPow k
  2 * areaTangent ((x - one) * one / (x + one)) + k * logTwo

/-- The logarithm of ten. -/
def logTen : Int := log (10 * one)

/-- How often the argument of an exponential is halved, and its result squared. -/
def halvings : Nat := 10

/-- The exponential of a fixed-point number that is not great. -/
def exp (x : Int) : Int :=
  let small := x / twoPow halvings
  let base := series (fun term n => (mul term small) / n) mostTerms 0 one
  (List.range halvings).foldl (fun y _ => mul y y) base

end Fixed

namespace Decimal

/-- The decimal of a fixed-point number times a power of ten, rounded. -/
def ofFixed (x : Int) (power : Int) : Except Signal Decimal :=
  rounded (x < 0) x.natAbs (power - Fixed.places)

/-! ### Roots -/

/-- The square root of a decimal. -/
def sqrt (d : Decimal) : Except Signal Decimal :=
  match d with
  | undefined .. => passedOn d
  | infinite negative => if negative then .error .invalidOperation else .ok d
  | finite negative coefficient exponent =>
    if coefficient = 0 then rounded negative 0 (exponent.fdiv 2)
    else if negative then .error .invalidOperation
    else
      let odd := exponent % 2 = 1
      let c := if odd then coefficient * 10 else coefficient
      let length := if odd then lengthOf coefficient / 2 + 1 else (lengthOf coefficient + 1) / 2
      let shift : Int := (precision : Int) + 1 - length
      let whole := c * tenPow (2 * shift).toNat
      let cut := tenPow (-2 * shift).toNat
      let root := integerRoot (whole / cut)
      let power := exponent.fdiv 2 - shift
      if whole % cut = 0 ∧ root * root = whole / cut then
        rounded false (root / tenPow shift.toNat * tenPow (-shift).toNat) (power + shift)
      else rounded false (if root % 5 = 0 then root + 1 else root) power

/-! ### Exponentials and logarithms -/

/-- Beyond this, an exponential is too great, or nothing. -/
def exponentialLimit : Rat := 2400000

/-- The exponential of a number. -/
def expOf (q : Rat) : Except Signal Decimal :=
  if q = 0 then .ok (finite false 1 0)
  else if exponentialLimit < q then .error .overflow
  else if q < -exponentialLimit then .ok (finite false 0 leastPower)
  else
    let wide := 20
    let scaled := (q * (Fixed.one * tenPow wide)).floor
    let power := scaled.fdiv (Fixed.logTen * tenPow wide)
    let rest := (q * Fixed.one).floor - power * Fixed.logTen
    ofFixed (Fixed.exp rest) power

/-- The exponential of a decimal. -/
def exp (d : Decimal) : Except Signal Decimal :=
  match d with
  | undefined .. => passedOn d
  | infinite negative => .ok (if negative then finite false 0 0 else infinite false)
  | _ => (d.value?.map expOf).getD (.ok d)

/-- The logarithm of a positive coefficient with an exponent, as a fixed-point number. -/
def logFixed (coefficient : Nat) (exponent : Int) : Int :=
  let power := leadingPower coefficient exponent
  let digits := lengthOf coefficient - 1
  let m : Int := (coefficient * tenPow (Fixed.places - digits) : Nat) / (tenPow (digits - Fixed.places) : Nat)
  Fixed.log m + power * Fixed.logTen

/-- A logarithm, by what it is of a positive finite decimal. -/
def logBy (of : Nat → Int → Except Signal Decimal) (d : Decimal) : Except Signal Decimal :=
  match d with
  | undefined .. => passedOn d
  | infinite negative => if negative then .error .invalidOperation else .ok d
  | finite negative coefficient exponent =>
    if coefficient = 0 then .ok (infinite true)
    else if negative then .error .invalidOperation
    else of coefficient exponent

/-- The natural logarithm. -/
def ln : Decimal → Except Signal Decimal := logBy fun coefficient exponent =>
  if finite false coefficient exponent |>.value?.any (· = 1) then .ok (finite false 0 0)
  else ofFixed (logFixed coefficient exponent) 0

/-- The logarithm to the base of ten; that of a power of ten is an integer. -/
def log10 : Decimal → Except Signal Decimal := logBy fun coefficient exponent =>
  let power := leadingPower coefficient exponent
  if coefficient = tenPow (lengthOf coefficient - 1) then .ok (ofInt power)
  else ofFixed (logFixed coefficient exponent * Fixed.one / Fixed.logTen) 0

/-- The power of ten of the first digit, as a decimal. -/
def logb : Decimal → Except Signal Decimal
  | finite _ coefficient exponent =>
    if coefficient = 0 then .error .divisionByZero
    else .ok (ofInt (leadingPower coefficient exponent))
  | infinite _ => .ok (infinite false)
  | d => passedOn d

/-! ### Powers -/

/-- How many digits powers are worked out with. -/
def workingDigits : Nat := 60

/-- A coefficient cut to the working digits, and its exponent. -/
def cut (coefficient : Nat) (exponent : Int) : Nat × Int :=
  let further := lengthOf coefficient - workingDigits
  (withoutDigits coefficient further, exponent + further)

/-- A coefficient with an exponent to a power, by squaring. The first argument is more than the
power has binary digits. -/
def powerOf : Nat → Nat → Int → Nat → Nat × Int
  | 0, _, _, _ => (1, 0)
  | fuel + 1, c, e, n =>
    if n = 0 then (1, 0)
    else
      let (half, power) := powerOf fuel c e (n / 2)
      let (c', e') := (half * half, power * 2)
      if n % 2 = 1 then cut (c' * c) (e' + e) else cut c' e'

/-- The integer that a decimal is, if it is one. -/
def integer? (d : Decimal) : Option Int :=
  d.value?.bind fun q => if q.den = 1 then some q.num else none

/-- A finite decimal that is not zero to the power of an integer. -/
def integerPower (negative : Bool) (c : Nat) (e : Int) (n : Int) : Except Signal Decimal :=
  let sign := negative && n % 2 = 1
  let magnitude := (lengthOf c + e) * n.natAbs
  if 0 ≤ n && 10 * greatestPower < magnitude then .error .overflow
  else
    let (c, e) := if n < 0 then quotientTo workingDigits 1 c (-e) else (c, e)
    let (c', e') := powerOf (n.natAbs.log2 + 2) c e n.natAbs
    rounded sign c' e'

/-- A decimal to the power of another one. -/
def pow (a b : Decimal) : Except Signal Decimal :=
  match undefinedOf? a b with
  | some result => result
  | none =>
    let isOdd := b.integer?.any fun n => n % 2 = 1
    let sign := a.isNegative && isOdd
    if b.isZero then (if a.isZero then .error .invalidOperation else .ok (finite false 1 0))
    else
      match a, b with
      | finite negative c e, finite falls c' e' =>
        if c = 0 then .ok (if falls then infinite sign else finite sign 0 0)
        else
          match b.integer? with
          | some n => integerPower negative c e n
          | none =>
            if negative then .error .invalidOperation
            else
              let exponent : Rat := (if falls then -(c' : Int) else (c' : Int)) * (1 : Rat) /
                tenPow (-e').toNat
              padded (expOf (exponent * logFixed c e / Fixed.one))
      | infinite negative, _ =>
        if negative && (b.integer?).isNone && (b.value?).isSome then .error .invalidOperation
        else .ok (if b.isNegative then finite sign 0 0 else infinite sign)
      | d, infinite falls =>
        match (d.withSign false).value? with
        | some q =>
          if d.isNegative then .error .invalidOperation
          else if q = 1 then .ok (finite false (tenPow (precision - 1)) (1 - precision))
          else if (q < 1) = falls then .ok (infinite false)
          else .ok (finite false 0 0)
        | none => .ok d
      | d, _ => .ok d
where
  padded : Except Signal Decimal → Except Signal Decimal
    | .ok (finite negative c e) =>
      let room := precision - lengthOf c
      .ok (finite negative (c * tenPow room) (e - room))
    | other => other

/-- A power of an integer, apart from multiples of another one: the sign is that of the power. The
modulus may have as many digits as are kept. -/
def powModulo (a b c : Decimal) : Except Signal Decimal :=
  match toWhole? a, toWhole? b, toWhole? c, undefinedAmong? [a, b, c] with
  | _, _, _, some result => result
  | some (negative, base), some (isBelow, n), some (_, modulus), none =>
    if modulus = 0 ∨ precision < lengthOf modulus ∨ isBelow ∧ n ≠ 0 ∨ n = 0 ∧ base = 0 then
      .error .invalidOperation
    else
      let size := powerModulo base modulus (n.log2 + 1) n (1 % modulus)
      .ok (finite (negative && n % 2 = 1) size.toNat 0)
  | _, _, _, none => .error .invalidOperation
where
  toWhole? : Decimal → Option (Bool × Nat)
    | finite negative c e =>
      if 0 ≤ e then if e ≤ 10000 then some (negative, c * tenPow e.toNat) else none
      else
        let unit := tenPow (min (-e).toNat (lengthOf c + 1))
        if c % unit = 0 then some (negative, c / unit) else none
    | _ => none
  undefinedAmong? : List Decimal → Option (Except Signal Decimal)
    | a :: b :: rest => (undefinedOf? a b).or (undefinedAmong? (b :: rest))
    | _ => none

end Decimal

end SheetExport
