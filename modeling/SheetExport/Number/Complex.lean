/-
**Complex numbers.**

A complex number has a real and an imaginary part, both floats. Its text leaves out a real part that
is zero. A quotient is worked out by the part of the divisor that is farther from zero, and powers
with small whole exponents by multiplication, so that they are exact where products are.
-/

import SheetExport.Number.Exact
import SheetExport.Number.Binary
import SheetExport.Number.Shortest

namespace SheetExport

/-- A complex number. -/
structure Complex where
  re : Float
  im : Float

namespace Complex

/-- A float as a complex number. -/
def ofFloat (x : Float) : Complex := ⟨x, 0.0⟩

/-- Is neither less than zero nor the zero below zero. -/
def isUnsigned (x : Float) : Bool := x.toBits < (0x8000000000000000 : UInt64)

/-- The text of a part, without the point of an integral one. -/
def partText (x : Float) : String :=
  let shown := floatText x
  if shown.endsWith ".0" then String.ofList (shown.toList.dropLast.dropLast) else shown

/-- The text of a part with its sign. -/
def signedText (x : Float) : String :=
  (if isUnsigned x || x.isNaN then "+" else "") ++ partText x

/-- The text of a complex number. -/
def text (z : Complex) : String :=
  if z.re == 0.0 && isUnsigned z.re then partText z.im ++ "j"
  else "(" ++ partText z.re ++ signedText z.im ++ "j)"

/-- Equality of complex numbers. -/
def same (z w : Complex) : Bool := z.re == w.re && z.im == w.im

/-- The sum. -/
def add (z w : Complex) : Complex := ⟨z.re + w.re, z.im + w.im⟩

/-- The difference. -/
def sub (z w : Complex) : Complex := ⟨z.re - w.re, z.im - w.im⟩

/-- The product. -/
def mul (z w : Complex) : Complex := ⟨z.re * w.re - z.im * w.im, z.re * w.im + z.im * w.re⟩

/-- The number with both signs turned. -/
def negated (z : Complex) : Complex := ⟨-z.re, -z.im⟩

/-- The number with the sign of its imaginary part turned. -/
def conjugate (z : Complex) : Complex := ⟨z.re, -z.im⟩

/-- The quotient, if the divisor is not zero. -/
def div? (z w : Complex) : Option Complex :=
  if w.im.abs <= w.re.abs then
    if w.re == 0.0 then none
    else
      let ratio := w.im / w.re
      let whole := w.re + w.im * ratio
      some ⟨(z.re + z.im * ratio) / whole, (z.im - z.re * ratio) / whole⟩
  else if w.re.abs <= w.im.abs then
    let ratio := w.re / w.im
    let whole := w.re * ratio + w.im
    some ⟨(z.re * ratio + z.im) / whole, (z.im * ratio - z.re) / whole⟩
  else some ⟨0.0 / 0.0, 0.0 / 0.0⟩

/-- The length of the arrow to a complex number. -/
def magnitude (z : Complex) : Float :=
  match exactValue? z.re, exactValue? z.im with
  | some a, some b =>
    let square := a * a + b * b
    rootFloat square.num.natAbs square.den
  | _, _ => if z.re.isInf || z.im.isInf then 1.0 / 0.0 else 0.0 / 0.0

/-- A number times powers of a base by the binary digits of an exponent. -/
def powerFrom (result base : Complex) : Nat → Nat → Complex
  | 0, _ => result
  | fuel + 1, n =>
    if n = 0 then result
    else powerFrom (if n % 2 = 1 then result.mul base else result) (base.mul base) fuel (n / 2)

/-- A power with a whole exponent. -/
def wholePower? (z : Complex) (n : Int) : Option Complex :=
  let power := powerFrom (ofFloat 1.0) z 64 n.natAbs
  if 0 < n then some power else (ofFloat 1.0).div? power

/-- The greatest whole exponent that powers are multiplied for. -/
def greatestExponent : Int := 100

/-- The power of two complex numbers, unless it would be one of zero that does not exist. -/
def pow? (z w : Complex) : Option Complex :=
  let whole := (floatInteger? w.re).filter fun n => w.im == 0.0 && n.natAbs ≤ greatestExponent
  match whole with
  | some n => z.wholePower? n
  | none =>
    if z.re == 0.0 && z.im == 0.0 then
      if w.im == 0.0 && 0.0 <= w.re then some (ofFloat 0.0) else none
    else
      let size := z.magnitude
      let angle := Float.atan2 z.im z.re
      let grown := Float.pow size w.re
      let (length, phase) :=
        if w.im == 0.0 then (grown, angle * w.re)
        else (grown / Float.exp (angle * w.im), angle * w.re + w.im * Float.log size)
      some ⟨length * Float.cos phase, length * Float.sin phase⟩

end Complex

end SheetExport
