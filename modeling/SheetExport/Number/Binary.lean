/-
**Binary floating-point numbers as exact numbers.**

A finite `Float` is a natural number times a power of two, with a sign; `Binary.ofFloat?` reads the
three off its bits, and everything exact about floats (whether one is integral, its digits, its
rounding to fixed places) is computed from them in natural numbers. `nearestFloat` is the way
back: the float nearest to a quotient, a tie going to the even neighbour.

`Binary.fixedText` writes so many digits after the point, rounded exactly from the binary fraction;
the sign stays even when all digits shown are zeros. A square root is the nearest float as well
(`rootFloat`): enough binary places are computed exactly, and one more tells whether anything is
left below them. The bits of integers, of which a negative one has all from some place on, are
combined and moved by `eitherBits`, `shiftedLeft` and their like.
-/

namespace SheetExport

/-- A finite float: `mantissa * 2 ^ exponent`, negated if `negative`. -/
structure Binary where
  negative : Bool
  mantissa : Nat
  exponent : Int
deriving Repr, DecidableEq

/-- A power of two. -/
def twoPow (n : Nat) : Nat := Nat.pow 2 n

/-- A power of ten. -/
def tenPow (n : Nat) : Nat := Nat.pow 10 n

namespace Binary

/-- The parts of a finite float; `none` for infinities and for what is no number. -/
def ofFloat? (x : Float) : Option Binary :=
  let bits := x.toBits.toNat
  let negative := decide (bits / twoPow 63 = 1)
  let biased : Nat := bits / twoPow 52 % twoPow 11
  let fraction := bits % twoPow 52
  if biased = 2047 then none
  else if biased = 0 then some ⟨negative, fraction, -1074⟩
  else some ⟨negative, twoPow 52 + fraction, (biased : Int) - 1075⟩

/-- The magnitude as a quotient of natural numbers. -/
def quotient (b : Binary) : Nat × Nat :=
  (b.mantissa * twoPow b.exponent.toNat, twoPow (-b.exponent).toNat)

/-- The integer that the number is, if it is one. -/
def toInt? (b : Binary) : Option Int :=
  let (num, den) := b.quotient
  if num % den = 0 then
    some (if b.negative then -((num / den : Nat) : Int) else ((num / den : Nat) : Int))
  else none

end Binary

/-- The integer that a finite float is, if it is one. -/
def floatInteger? (x : Float) : Option Int := Binary.ofFloat? x |>.bind Binary.toInt?

/-- A quotient rounded to the nearest natural number, a tie going to the even one. -/
def roundQuotient (num den : Nat) : Nat :=
  let whole := num / den
  let twice := 2 * (num % den)
  if den < twice ∨ (twice = den ∧ whole % 2 = 1) then whole + 1 else whole

/-- The exponent of the greatest power of two that is at most `num / den`. -/
def floorLogTwo (num den : Nat) : Int :=
  let guess : Int := (num.log2 : Int) - den.log2
  if den * twoPow guess.toNat ≤ num * twoPow (-guess).toNat then guess else guess - 1

/-- The float nearest to a nonnegative quotient; infinite when the quotient is beyond all floats. -/
def nearestFloat (num den : Nat) : Float :=
  if num = 0 then 0.0
  else
    let exponent := max (floorLogTwo num den - 52) (-1074)
    let mantissa := roundQuotient (num * twoPow (-exponent).toNat) (den * twoPow exponent.toNat)
    let bits :=
      if mantissa < twoPow 52 then mantissa
      else (exponent + 1075).toNat * twoPow 52 + (mantissa - twoPow 52)
    Float.ofBits (UInt64.ofNat (min bits (2047 * twoPow 52)))

/-- A float with the opposite sign if asked for. -/
def signedFloat (negative : Bool) (x : Float) : Float := if negative then -x else x

/-! ### Fixed places -/

/-- The text of a finite float with exactly `places` digits after the point. -/
def Binary.fixedText (places : Nat) (b : Binary) : List Char :=
  let (num, den) := b.quotient
  let units := roundQuotient (num * tenPow places) den
  let digits := Nat.toDigits 10 units
  let padded := List.replicate (places + 1 - digits.length) '0' ++ digits
  let before := padded.length - places
  let magnitude := padded.take before ++ '.' :: padded.drop before
  if b.negative then '-' :: magnitude else magnitude

/-! ### Square roots -/

/-- The greatest integer whose square is at most a number, from a bound above it down. -/
def rootBelow : Nat → Nat → Nat → Nat
  | 0, _, guess => guess
  | fuel + 1, n, guess =>
    let next := (guess + n / guess) / 2
    if next < guess then rootBelow fuel n next else guess

/-- The greatest integer whose square is at most a number. -/
def integerRoot (n : Nat) : Nat :=
  if n = 0 then 0 else rootBelow (n.log2 + 8) n (twoPow (n.log2 / 2 + 1))

/-- How many binary places of a root are computed. -/
def rootPlaces : Nat := 128

/-- The float nearest to the square root of a quotient. -/
def rootFloat (num den : Nat) : Float :=
  let square := num * den * twoPow (2 * rootPlaces)
  let root := integerRoot square
  let rest := if root * root = square then 0 else 1
  nearestFloat (2 * root + rest) (2 * den * twoPow rootPlaces)

/-! ### Bits of integers -/

/-- The bits that one integer or the other has. -/
def eitherBits : Int → Int → Int
  | .ofNat a, .ofNat b => (a.lor b : Nat)
  | .ofNat a, .negSucc b => .negSucc (b - a.land b)
  | .negSucc a, .ofNat b => .negSucc (a - a.land b)
  | .negSucc a, .negSucc b => .negSucc (a.land b)

/-- The bits that both integers have. -/
def bothBits : Int → Int → Int
  | .ofNat a, .ofNat b => (a.land b : Nat)
  | .ofNat a, .negSucc b => (a - a.land b : Nat)
  | .negSucc a, .ofNat b => (b - a.land b : Nat)
  | .negSucc a, .negSucc b => .negSucc (a.lor b)

/-- The bits that one of two integers has and the other has not. -/
def differingBits : Int → Int → Int
  | .ofNat a, .ofNat b => (a.xor b : Nat)
  | .ofNat a, .negSucc b => .negSucc (a.xor b)
  | .negSucc a, .ofNat b => .negSucc (a.xor b)
  | .negSucc a, .negSucc b => (a.xor b : Nat)

/-- An integer with its bits so many places higher. -/
def shiftedLeft (n : Int) (places : Nat) : Int := n * twoPow places

/-- An integer with its bits so many places lower. -/
def shiftedRight (n : Int) (places : Nat) : Int := n.fdiv (twoPow places)

end SheetExport
