/-
**Decimal numbers that keep their digits.**

A decimal is a coefficient times a power of ten, so `1.50` and `1.5` are different texts of equal
numbers; there are also infinities and undefined results, which may carry a payload and may be
signalling.
The text follows the scientific-string rule: positional as long as no zeros have to be added on
the right and at most five between point and digits, otherwise with an exponent.
-/

import SheetExport.Number.Numeral
import SheetExport.Text.Ranges

namespace SheetExport

/-- A decimal number, an infinity, or an undefined result. -/
inductive Decimal
  | finite (negative : Bool) (coefficient : Nat) (exponent : Int)
  | infinite (negative : Bool)
  | undefined (negative signalling : Bool) (payload : Nat)
deriving Repr, DecidableEq

namespace Decimal

/-- A minus if asked for. -/
def signText (negative : Bool) : String := if negative then "-" else ""

/-- The scientific-string rule for a coefficient and its exponent. -/
def finiteText (coefficient : Nat) (exponent : Int) : List Char :=
  let digits := Nat.toDigits 10 coefficient
  let before := exponent + digits.length
  if exponent ≤ 0 ∧ -6 < before then
    if before ≤ 0 then '0' :: '.' :: (List.replicate (-before).toNat '0' ++ digits)
    else if exponent = 0 then digits
    else digits.take before.toNat ++ '.' :: digits.drop before.toNat
  else
    let mantissa := match digits with
      | first :: second :: rest => first :: '.' :: second :: rest
      | short => short
    let power := before - 1
    mantissa ++ 'E' :: (if power < 0 then '-' else '+') :: Nat.toDigits 10 power.natAbs

/-- The text of a decimal. -/
def text : Decimal → String
  | finite negative coefficient exponent =>
    signText negative ++ String.ofList (finiteText coefficient exponent)
  | infinite negative => signText negative ++ "Infinity"
  | undefined negative signalling payload =>
    signText negative ++ (if signalling then "sNaN" else "NaN") ++
      (if payload = 0 then "" else toString payload)

/-- The nearest float; none for a signalling undefined result. -/
def toFloat? : Decimal → Option Float
  | finite negative coefficient exponent =>
    some (signedFloat negative (scientificFloat coefficient exponent))
  | infinite negative => some (signedFloat negative (1.0 / 0.0))
  | undefined _ signalling _ => if signalling then none else some (0.0 / 0.0)

/-- Why an operation on decimals has no result. -/
inductive Signal
  | invalidOperation | overflow
  /-- A text is none of a decimal. -/
  | conversionSyntax
  | divisionByZero
  /-- Zero was divided by zero. -/
  | divisionUndefined
  /-- A whole quotient has more digits than are kept. -/
  | divisionImpossible
deriving Repr, DecidableEq

/-- The name of a signal. -/
def Signal.name : Signal → String
  | invalidOperation => "InvalidOperation"
  | overflow => "Overflow"
  | conversionSyntax => "ConversionSyntax"
  | divisionByZero => "DivisionByZero"
  | divisionUndefined => "DivisionUndefined"
  | divisionImpossible => "DivisionImpossible"

/-- The wording of a signal. -/
def Signal.text (s : Signal) : String := "[<class 'decimal." ++ s.name ++ "'>]"

/-- What a signal is handled as: conditions of a division without a sensible result, and texts that
are none, are invalid operations. -/
def Signal.handledAs : Signal → Signal
  | overflow => overflow
  | divisionByZero => divisionByZero
  | _ => invalidOperation

/-- How many digits a computed decimal keeps. -/
def precision : Nat := 28

/-- The greatest power of ten that the first digit of a computed decimal can have. -/
def greatestPower : Int := 999999

/-- The power of ten that the last digit of a computed decimal has at least. -/
def leastPower : Int := -1000026

/-- A coefficient without its last digits, rounded, a tie going to the even neighbour. -/
def withoutDigits (coefficient count : Nat) : Nat :=
  if (Nat.toDigits 10 coefficient).length < count then 0
  else roundQuotient coefficient (tenPow count)

/-- A decimal rounded to the precision and to the range of powers. -/
def rounded (negative : Bool) (coefficient : Nat) (exponent : Int) : Except Signal Decimal :=
  if coefficient = 0 then
    .ok (finite negative 0 (min (max exponent leastPower) greatestPower))
  else
    let last := exponent + (Nat.toDigits 10 coefficient).length - precision
    let power := max exponent (max last leastPower)
    let kept := withoutDigits coefficient (power - exponent).toNat
    let (kept, power) :=
      if kept = tenPow precision then (tenPow (precision - 1), power + 1) else (kept, power)
    if kept ≠ 0 ∧ greatestPower < power + (Nat.toDigits 10 kept).length - 1 then .error .overflow
    else .ok (finite negative kept power)

/-- The product with an integer. An undefined result passes on the last digits of its payload. -/
def scale (k : Int) : Decimal → Except Signal Decimal
  | finite negative coefficient exponent =>
    rounded (negative != decide (k < 0)) (coefficient * k.natAbs) exponent
  | infinite negative =>
    if k = 0 then .error .invalidOperation else .ok (infinite (negative != decide (k < 0)))
  | undefined negative signalling payload =>
    if signalling then .error .invalidOperation
    else .ok (undefined negative false (payload % tenPow precision))

/-- Removes one sign from the front of a text. -/
def splitSign : List Char → Bool × List Char
  | '-' :: rest => (true, rest)
  | '+' :: rest => (false, rest)
  | cs => (false, cs)

/-- Reads the text of an infinity or of an undefined result, in any case. -/
def readSpecial? (negative : Bool) (cs : List Char) : Option Decimal :=
  let lower := cs.map Char.toLower
  if lower = "inf".toList ∨ lower = "infinity".toList then some (infinite negative)
  else
    let (signalling, rest) := match lower with
      | 's' :: rest => (true, rest)
      | _ => (false, lower)
    match rest with
    | 'n' :: 'a' :: 'n' :: payload =>
      if payload.all Text.isDecimalDigit then
        some (undefined negative signalling (Text.digitsValue payload))
      else none
    | _ => none

/-- Reads the text of a decimal, with white space around it and low lines among its characters. -/
def ofText? (s : String) : Option Decimal :=
  let (negative, body) := splitSign ((Text.strip s.toList).filter (· ≠ '_'))
  match scanMagnitude body with
  | none => readSpecial? negative body
  | some (numeral, rest) =>
    let whole := numeral.takeWhile Text.isDecimalDigit
    let fraction := (numeral.dropWhile Text.isDecimalDigit).drop 1
    let power : Option Int := match rest with
      | [] => some 0
      | mark :: more => if mark = 'e' ∨ mark = 'E' then readExponent? more else none
    power.map fun exponent =>
      finite negative (Text.digitsValue (whole ++ fraction)) (exponent - fraction.length)

end Decimal

/-- The text of a fraction: numerator and denominator in lowest terms, or an integer alone. -/
def ratioText (q : Rat) : String :=
  if q.den = 1 then toString q.num else toString q.num ++ "/" ++ toString q.den

/-- The float nearest to a fraction. -/
def ratioFloat (q : Rat) : Float :=
  signedFloat (decide (q.num < 0)) (nearestFloat q.num.natAbs q.den)

end SheetExport
