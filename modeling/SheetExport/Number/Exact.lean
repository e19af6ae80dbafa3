/-
**The exact values of floats.**

A finite float is a fraction. Its integral part (`truncated?`) and the quotient of two floats
rounded down (`floorQuotient`) are worked out exactly and rounded once.
-/

import SheetExport.Number.Decimal

namespace SheetExport

/-- The exact value of a finite float. -/
def exactValue? (x : Float) : Option Rat :=
  (Binary.ofFloat? x).map fun b =>
    let (num, den) := b.quotient
    (if b.negative then -(num : Int) else (num : Int)) / (den : Rat)

/-- A finite float without its fraction. -/
def truncated? (x : Float) : Option Int := (exactValue? x).map fun q => q.num.tdiv q.den

/-- A float that is zero, or a number below or above it, with the sign of another one. -/
def withSignOf (x y : Float) : Float :=
  Float.ofBits ((x.toBits &&& 0x7FFFFFFFFFFFFFFF) ||| (y.toBits &&& 0x8000000000000000))

/-- The quotient of floats rounded down, and what remains; the divisor is not zero. -/
def floorQuotient (x y : Float) : Float × Float :=
  match exactValue? x, exactValue? y with
  | some a, some b =>
    let quotient := (a / b).floor
    let rest := a - b * quotient
    (if quotient = 0 then withSignOf 0.0 (x / y) else ratioFloat quotient,
      if rest = 0 then withSignOf 0.0 y else ratioFloat rest)
  | some a, none =>
    if y.isNaN then (y, y)
    else if a = 0 then (withSignOf 0.0 (x / y), withSignOf 0.0 y)
    else if (x < 0.0) = (y < 0.0) then (withSignOf 0.0 (x / y), x)
    else (-1.0, y)
  | none, _ => (0.0 / 0.0, 0.0 / 0.0)

end SheetExport
