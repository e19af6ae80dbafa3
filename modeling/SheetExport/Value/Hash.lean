/-
**Numbers as keys.**

Numbers that are equal have the same key, whatever their kinds: the remainder of a prime, in which a
denominator divides (`keyOfRatio`). A complex number has a key made of those of its parts, and so do
a tuple (`tupleKey`) and a set (`setKey`), where the order of the members makes no difference.
-/

import SheetExport.Number.Modular
import SheetExport.Value.Numeric

namespace SheetExport.Numeric

/-- The prime that keys are remainders of. -/
def keyModulus : Int := twoPow 61 - 1

/-- The key of the infinities, and of a ratio whose denominator is a multiple of the prime. -/
def infiniteKey : Int := 314159

/-- No key is minus one. -/
def validKey (n : Int) : Int := if n = -1 then -2 else n

/-- The key of a ratio. -/
def keyOfRatio (q : Rat) : Int :=
  let size := match inverse? q.den keyModulus with
    | some factor => q.num.natAbs % keyModulus * factor % keyModulus
    | none => infiniteKey
  validKey (if q.num < 0 then -size else size)

/-- An integer among those of sixty-four bits. -/
def wrapped (n : Int) : Int := (n + twoPow 63) % twoPow 64 - twoPow 63

/-- The key of a number, unless it is undefined. -/
def key? (n : Numeric) : Option Int :=
  match n with
  | complex z =>
    match real z.re, real z.im with
    | some a, some b => some (validKey (wrapped (a + 1000003 * b)))
    | _, _ => none
  | n =>
    match n.position? with
    | some (.at q) => some (keyOfRatio q)
    | some .least => some (-infiniteKey)
    | some .greatest => some infiniteKey
    | none => none
where
  real (x : Float) : Option Int :=
    match (float x).position? with
    | some (.at q) => some (keyOfRatio q)
    | some .least => some (-infiniteKey)
    | some .greatest => some infiniteKey
    | none => none

/-! ### Keys made of keys -/

/-- The bits of a key as an integer; no key is minus one. -/
def signedKey (bits : UInt64) (instead : Int) : Int :=
  let key := wrapped bits.toNat
  if key = -1 then instead else key

/-- The factor of the first key of a tuple, and those of every key. -/
def tupleFactors : UInt64 × UInt64 × UInt64 :=
  (2870177450012600261, 14029467366897019727, 11400714785074694791)

/-- The key of a tuple whose items have the given keys. -/
def tupleKey (keys : List Int) : Int :=
  let (start, inner, outer) := tupleFactors
  let mix := fun (bits : UInt64) (key : Int) =>
    let sum := bits + UInt64.ofInt key * inner
    ((sum <<< 31) ||| (sum >>> 33)) * outer
  let size : UInt64 := keys.length.toUInt64 ^^^ (start ^^^ (3527539 : UInt64))
  signedKey (keys.foldl mix start + size) 1546275796

/-- The key of a set whose members have the given keys. -/
def setKey (keys : List Int) : Int :=
  let spread := fun key : Int =>
    let bits : UInt64 := UInt64.ofInt key
    (bits ^^^ (89869747 : UInt64) ^^^ (bits <<< 16)) * (3644798167 : UInt64)
  let members : UInt64 := keys.foldl (fun bits key => bits ^^^ spread key) 0
  let size : UInt64 := (keys.length.toUInt64 + 1) * 1927868237
  let sized : UInt64 := members ^^^ size
  let mixed : UInt64 := sized ^^^ (sized >>> 11) ^^^ (sized >>> 25)
  signedKey (mixed * 69069 + 907133923) 590923713

end SheetExport.Numeric
