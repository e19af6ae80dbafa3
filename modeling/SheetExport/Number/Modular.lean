/-
**Integers apart from multiples of a modulus.**

An integer that has no divisor in common with the modulus has an inverse (`inverse?`), found by the
steps that find the greatest common divisor. Powers (`powerModulo`) are made by squaring.
-/

namespace SheetExport

/-- The greatest common divisor of two numbers, and the factor of the first that makes it, apart from
multiples of the second. -/
def inverseFrom : Nat → Int → Int → Int → Int → Int × Int
  | 0, a, _, x, _ => (a, x)
  | fuel + 1, a, b, x, y =>
    if b = 0 then (a, x) else inverseFrom fuel b (a.fmod b) y (x - a.fdiv b * y)

/-- The number whose product with another one is one, apart from multiples of a modulus. -/
def inverse? (a modulus : Int) : Option Int :=
  let (divisor, factor) :=
    inverseFrom (2 * (modulus.natAbs.log2 + 2)) (a.fmod modulus) modulus 1 0
  if divisor.natAbs = 1 then some ((factor * divisor).fmod modulus) else none

/-- A power of an integer, apart from multiples of a modulus. -/
def powerModulo (base modulus : Int) : Nat → Nat → Int → Int
  | 0, _, result => result
  | _, 0, result => result
  | fuel + 1, n, result =>
    powerModulo (base * base % modulus) modulus fuel (n / 2)
      (if n % 2 = 1 then result * base % modulus else result)

end SheetExport
