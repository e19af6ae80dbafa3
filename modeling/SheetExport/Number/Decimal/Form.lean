/-
**Other forms of decimals, and what can be asked of them.**

A decimal can be given another exponent (`quantize`), as few digits as possible (`normalize`) or no
fraction (`integral`), rounded in one of several ways (`Rounding`); it has neighbours among the
decimals with the kept digits; and it belongs to a class of numbers (`className`).
-/

import SheetExport.Number.Decimal.Arithmetic

namespace SheetExport.Decimal

/-! ### Rounding -/

/-- Ways to round a quotient to an integer. -/
inductive Rounding
  | ceiling | floor | up | down | halfUp | halfDown | halfEven
  /-- Away from zero where the last digit would be zero or five. -/
  | upFromZeroOrFive
deriving DecidableEq

/-- A quotient rounded to an integer; the sign is that of the number it belongs to. -/
def Rounding.quotient (r : Rounding) (negative : Bool) (num den : Nat) : Nat :=
  let below := num / den
  let rest := num % den
  let goesUp := match r with
    | ceiling => !negative
    | floor => negative
    | up => true
    | down => false
    | halfUp => decide (den ≤ 2 * rest)
    | halfDown => decide (den < 2 * rest)
    | halfEven => decide (den < 2 * rest) || (2 * rest = den && below % 2 = 1)
    | upFromZeroOrFive => below % 5 = 0
  if rest ≠ 0 && goesUp then below + 1 else below

/-- A coefficient without its last digits, rounded in a way. -/
def Rounding.withoutDigits (r : Rounding) (negative : Bool) (coefficient count : Nat) : Nat :=
  if lengthOf coefficient + 1 < count then r.quotient negative (min coefficient 1) 100
  else r.quotient negative coefficient (tenPow count)

/-- A coefficient with another exponent, rounded in a way. -/
def Rounding.rescaled (r : Rounding) (negative : Bool) (coefficient : Nat) (exponent power : Int) :
    Nat :=
  r.withoutDigits negative (coefficient * tenPow (exponent - power).toNat)
    (power - exponent).toNat

/-! ### Forms -/

/-- The decimal with the exponent of another one. -/
def quantize (r : Rounding) (a b : Decimal) : Except Signal Decimal :=
  match undefinedOf? a b with
  | some result => result
  | none =>
    match a, b with
    | finite negative coefficient exponent, finite _ _ power =>
      if power < leastPower ∨ greatestPower < power then .error .invalidOperation
      else if coefficient = 0 then .ok (finite negative 0 power)
      else if greatestPower < leadingPower coefficient exponent ∨
          (precision : Int) < leadingPower coefficient exponent - power + 1 then
        .error .invalidOperation
      else
        let kept := r.rescaled negative coefficient exponent power
        if precision < lengthOf kept then .error .invalidOperation
        else .ok (finite negative kept power)
    | infinite _, infinite _ => .ok a
    | _, _ => .error .invalidOperation

/-- The decimal without zeros at its end. -/
def normalize (d : Decimal) : Except Signal Decimal :=
  (fixed d).map fun kept => match kept with
    | finite negative coefficient exponent =>
      if coefficient = 0 then finite negative 0 0
      else
        let (c, e) := withoutZeros (lengthOf coefficient) coefficient exponent greatestPower
        finite negative c e
    | other => other

/-- A decimal without a fraction, rounded in a way. -/
def integral (r : Rounding) (d : Decimal) : Except Signal Decimal :=
  match d with
  | finite negative coefficient exponent =>
    .ok (if 0 ≤ exponent then d
      else finite negative (r.rescaled negative coefficient exponent 0) 0)
  | infinite _ => .ok d
  | _ => passedOn d

/-- The integer that a finite decimal is rounded to. -/
def toInteger? (r : Rounding) : Decimal → Option Int
  | finite negative coefficient exponent =>
    let n : Int := r.rescaled negative coefficient exponent 0
    some (if negative then -n else n)
  | _ => none

/-- The decimal times a power of ten; the power has to be an integer that is not too great. -/
def timesPowerOfTen (a b : Decimal) : Except Signal Decimal :=
  match undefinedOf? a b with
  | some result => result
  | none =>
    match a, b with
    | a, finite negative n 0 =>
      if 2 * (precision + greatestPower) < n then .error .invalidOperation
      else
        match a with
        | finite sign coefficient exponent =>
          rounded sign coefficient (exponent + if negative then -(n : Int) else n)
        | other => .ok other
    | _, _ => .error .invalidOperation

/-! ### Neighbours -/

/-- The next decimal with the kept digits above, or below. -/
def next (above : Bool) (d : Decimal) : Except Signal Decimal :=
  match d with
  | undefined .. => passedOn d
  | infinite negative =>
    .ok (if negative = above then
        finite negative (tenPow precision - 1) (greatestPower + 1 - precision)
      else d)
  | finite negative coefficient exponent =>
    let away := negative ≠ above
    if coefficient = 0 then .ok (finite (!above) 1 leastPower)
    else
      let power := max leastPower (leadingPower coefficient exponent - precision + 1)
      let scaled := coefficient * tenPow (exponent - power).toNat
      let unit := tenPow (power - exponent).toNat
      let kept := scaled / unit
      if away then rounded negative (kept + 1) power
      else if scaled % unit ≠ 0 then rounded negative kept power
      else if kept = tenPow (precision - 1) ∧ leastPower < power then
        rounded negative (kept * 10 - 1) (power - 1)
      else rounded negative (kept - 1) power

/-! ### Questions -/

/-- The power of ten of the first digit; zero for what is not finite. -/
def adjusted : Decimal → Int
  | finite _ coefficient exponent => leadingPower coefficient exponent
  | _ => 0

/-- Is so small that not all digits can be kept. -/
def isSubnormal : Decimal → Bool
  | finite _ coefficient exponent =>
    coefficient ≠ 0 && leadingPower coefficient exponent < -greatestPower
  | _ => false

/-- The class of numbers that a decimal belongs to. -/
def className (d : Decimal) : String :=
  match d with
  | undefined _ signalling _ => if signalling then "sNaN" else "NaN"
  | _ =>
    (if d.isNegative then "-" else "+") ++
      (if d.isZero then "Zero"
        else if d.isSubnormal then "Subnormal"
        else match d with
          | infinite _ => "Infinity"
          | _ => "Normal")

/-- The text with an exponent that is a multiple of three. -/
def engineeringText (d : Decimal) : String :=
  match d with
  | finite negative coefficient exponent =>
    let digits := Nat.toDigits 10 coefficient
    let leading := exponent + digits.length
    if exponent ≤ 0 ∧ -6 < leading then d.text
    else
      let places := if coefficient = 0 then (leading + 1) % 3 - 1 else (leading - 1) % 3 + 1
      let shown := if places ≤ 0 then
          '0' :: '.' :: (List.replicate (-places).toNat '0' ++ digits)
        else if (digits.length : Int) ≤ places then
          digits ++ List.replicate (places - digits.length).toNat '0'
        else digits.take places.toNat ++ '.' :: digits.drop places.toNat
      let power := leading - places
      signText negative ++ String.ofList shown ++
        (if power = 0 then ""
          else "E" ++ (if power < 0 then "-" else "+") ++ toString power.natAbs)
  | _ => d.text

/-- The sign, the digits, and the exponent or the letter that stands for it. -/
def digitsOf (d : Decimal) : Bool × List Nat × (Int ⊕ String) :=
  let digits := fun n : Nat => (Nat.toDigits 10 n).map fun c => c.toNat - '0'.toNat
  match d with
  | finite negative coefficient exponent => (negative, digits coefficient, .inl exponent)
  | infinite negative => (negative, [0], .inr "F")
  | undefined negative signalling payload =>
    (negative, if payload = 0 then [] else digits payload, .inr (if signalling then "N" else "n"))

end SheetExport.Decimal
