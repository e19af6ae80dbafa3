/-
**Arithmetic of decimals.**

Sums, products and quotients are worked out exactly as far as the kept digits need it and rounded
once. An exact result has the exponent nearest to the one that the operands suggest. Undefined
operands make undefined results, and signalling ones none.

The order of decimals as numbers leaves open which of two equal ones comes first, and where
undefined ones stand. `compareTotal` decides both: of equal decimals the one with fewer places is
greater, and undefined ones stand beyond the infinities. `greater` and `less` pick one of two.

The digits of a decimal are also seen as places of a row of the kept length. They can be moved along
it, beyond its ends (`shifted`) or around them (`rotated`), and those of decimals that have only
zeros and ones can be combined place by place (`combined`).
-/

import SheetExport.Number.Decimal

namespace SheetExport.Decimal

/-! ### Parts -/

/-- How many digits a coefficient has. -/
def lengthOf (coefficient : Nat) : Nat := (Nat.toDigits 10 coefficient).length

/-- Is below zero, or carries a minus. -/
def isNegative : Decimal → Bool
  | finite negative _ _ => negative
  | infinite negative => negative
  | undefined negative _ _ => negative

/-- Is a zero. -/
def isZero : Decimal → Bool
  | finite _ coefficient _ => coefficient = 0
  | _ => false

/-- Is undefined. -/
def isUndefined : Decimal → Bool
  | undefined .. => true
  | _ => false

/-- The decimal with the given sign. -/
def withSign (negative : Bool) : Decimal → Decimal
  | finite _ coefficient exponent => finite negative coefficient exponent
  | infinite _ => infinite negative
  | undefined _ signalling payload => undefined negative signalling payload

/-- The decimal of an integer. -/
def ofInt (n : Int) : Decimal := finite (n < 0) n.natAbs 0

/-- The exact value of a finite decimal. -/
def value? : Decimal → Option Rat
  | finite negative coefficient exponent =>
    let magnitude : Rat := (coefficient * tenPow exponent.toNat : Nat) / (tenPow (-exponent).toNat)
    some (if negative then -magnitude else magnitude)
  | _ => none

/-- The power of ten of the first digit. -/
def leadingPower (coefficient : Nat) (exponent : Int) : Int :=
  exponent + lengthOf coefficient - 1

/-- The undefined result that an undefined operand makes. -/
def passedOn : Decimal → Except Signal Decimal
  | undefined negative signalling payload =>
    if signalling then .error .invalidOperation
    else .ok (undefined negative false (payload % tenPow precision))
  | d => .ok d

/-- What two operands make if one of them is undefined: the first that signals, else the first. -/
def undefinedOf? (a b : Decimal) : Option (Except Signal Decimal) :=
  match a, b with
  | undefined _ true _, _ | _, undefined _ true _ => some (.error .invalidOperation)
  | undefined .., _ => some (passedOn a)
  | _, undefined .. => some (passedOn b)
  | _, _ => none

/-- A decimal rounded to the kept digits. -/
def fixed : Decimal → Except Signal Decimal
  | finite negative coefficient exponent => rounded negative coefficient exponent
  | infinite negative => .ok (infinite negative)
  | d => passedOn d

/-! ### Sums -/

/-- A signed coefficient with its exponent. -/
structure Term where
  coefficient : Int
  exponent : Int

/-- The term of a finite decimal. -/
def Term.ofFinite (negative : Bool) (coefficient : Nat) (exponent : Int) : Term :=
  ⟨if negative then -coefficient else coefficient, exponent⟩

/-- A term of a smaller exponent, or one that is as small and has no more digits than can show in a
sum with the greater one. -/
def Term.beside (small great : Term) : Term :=
  let power := great.exponent +
    min (-1) ((lengthOf great.coefficient.natAbs : Int) - precision - 2)
  if leadingPower small.coefficient.natAbs small.exponent < power then
    ⟨small.coefficient.sign, power⟩
  else small

/-- The sum of two terms, the first of which has the smaller exponent. -/
def Term.sum (small great : Term) : Term :=
  let small := if great.coefficient = 0 then small
    else if small.coefficient = 0 then
      ⟨0, max small.exponent (great.exponent - precision - 1)⟩
    else small.beside great
  if great.coefficient = 0 then small
  else
    let power := min small.exponent great.exponent
    ⟨small.coefficient * tenPow (small.exponent - power).toNat +
      great.coefficient * tenPow (great.exponent - power).toNat, power⟩

/-- The sum of two decimals. -/
def add (a b : Decimal) : Except Signal Decimal :=
  match undefinedOf? a b with
  | some result => result
  | none =>
    match a, b with
    | finite n c e, finite n' c' e' =>
      let first := Term.ofFinite n c e
      let second := Term.ofFinite n' c' e'
      let sum := if e ≤ e' then first.sum second else second.sum first
      let negative := if sum.coefficient = 0 then n && n' else decide (sum.coefficient < 0)
      rounded negative sum.coefficient.natAbs sum.exponent
    | infinite n, infinite n' => if n = n' then .ok (infinite n) else .error .invalidOperation
    | infinite n, _ => .ok (infinite n)
    | _, b => .ok b

/-- The decimal with the opposite sign; a zero has none. -/
def negated (d : Decimal) : Except Signal Decimal :=
  if d.isZero then fixed (d.withSign false)
  else if d.isUndefined then passedOn d
  else fixed (d.withSign !d.isNegative)

/-- The decimal as it is, rounded; a zero has no sign. -/
def plus (d : Decimal) : Except Signal Decimal :=
  fixed (if d.isZero then d.withSign false else d)

/-- The magnitude of a decimal. -/
def magnitude (d : Decimal) : Except Signal Decimal :=
  if d.isUndefined then passedOn d else fixed (d.withSign false)

/-- The difference of two decimals. -/
def sub (a b : Decimal) : Except Signal Decimal :=
  if b.isUndefined then add a b else add a (b.withSign !b.isNegative)

/-! ### Products and quotients -/

/-- The product of two decimals. -/
def mul (a b : Decimal) : Except Signal Decimal :=
  match undefinedOf? a b with
  | some result => result
  | none =>
    let negative := a.isNegative != b.isNegative
    match a, b with
    | finite _ c e, finite _ c' e' => rounded negative (c * c') (e + e')
    | _, _ =>
      if a.isZero || b.isZero then .error .invalidOperation else .ok (infinite negative)

/-- Removes zeros at the end of a coefficient up to an exponent. The first argument is more than
there are digits. -/
def withoutZeros : Nat → Nat → Int → Int → Nat × Int
  | 0, coefficient, exponent, _ => (coefficient, exponent)
  | fuel + 1, coefficient, exponent, ideal =>
    if exponent < ideal ∧ coefficient % 10 = 0 then
      withoutZeros fuel (coefficient / 10) (exponent + 1) ideal
    else (coefficient, exponent)

/-- A quotient of coefficients to more digits than the given count: the last of them tells whether
anything follows. -/
def quotientTo (digits : Nat) (c c' : Nat) (ideal : Int) : Nat × Int :=
  let shift : Int := (lengthOf c' : Int) - lengthOf c + digits + 1
  let num := c * tenPow shift.toNat
  let den := c' * tenPow (-shift).toNat
  let quotient := num / den
  if num % den ≠ 0 then
    (if quotient % 5 = 0 then quotient + 1 else quotient, ideal - shift)
  else withoutZeros (lengthOf quotient) quotient (ideal - shift) ideal

/-- The quotient of two decimals. -/
def div (a b : Decimal) : Except Signal Decimal :=
  match undefinedOf? a b with
  | some result => result
  | none =>
    let negative := a.isNegative != b.isNegative
    match a, b with
    | finite _ c e, finite _ c' e' =>
      if c' = 0 then .error (if c = 0 then .divisionUndefined else .divisionByZero)
      else if c = 0 then rounded negative 0 (e - e')
      else
        let (quotient, power) := quotientTo precision c c' (e - e')
        rounded negative quotient power
    | infinite _, infinite _ => .error .invalidOperation
    | infinite _, _ => .ok (infinite negative)
    | _, _ => .ok (finite negative 0 leastPower)

/-- The whole quotient of two finite decimals, and what remains, which has the sign of the first. -/
def divide (n : Bool) (c : Nat) (e : Int) (n' : Bool) (c' : Nat) (e' : Int) :
    Except Signal (Decimal × Decimal) :=
  let negative := n != n'
  let power := min e e'
  let apart := leadingPower c e - leadingPower c' e'
  if c = 0 || apart ≤ -2 then
    (rounded n (c * tenPow (e - power).toNat) power).map fun rest => (finite negative 0 0, rest)
  else if (precision : Int) < apart then .error .divisionImpossible
  else
    let num := c * tenPow (e - power).toNat
    let den := c' * tenPow (e' - power).toNat
    if tenPow precision ≤ num / den then .error .divisionImpossible
    else (rounded n (num % den) power).map fun rest => (finite negative (num / den) 0, rest)

/-- The quotient of two decimals without its fraction. -/
def wholeDiv (a b : Decimal) : Except Signal Decimal :=
  match undefinedOf? a b with
  | some result => result
  | none =>
    match a, b with
    | finite n c e, finite n' c' e' =>
      if c' = 0 then .error (if c = 0 then .divisionUndefined else .divisionByZero)
      else (divide n c e n' c' e').map Prod.fst
    | infinite _, infinite _ => .error .invalidOperation
    | infinite _, _ => .ok (infinite (a.isNegative != b.isNegative))
    | _, _ => .ok (finite (a.isNegative != b.isNegative) 0 0)

/-- What remains of a division without a fraction. -/
def rem (a b : Decimal) : Except Signal Decimal :=
  match undefinedOf? a b with
  | some result => result
  | none =>
    match a, b with
    | finite n c e, finite n' c' e' =>
      if c' = 0 then .error (if c = 0 then .divisionUndefined else .invalidOperation)
      else (divide n c e n' c' e').map Prod.snd
    | infinite _, _ => .error .invalidOperation
    | _, _ => fixed a

/-- What remains of a division by the nearest integer, an even one where two are as near. -/
def nearRem (a b : Decimal) : Except Signal Decimal :=
  match undefinedOf? a b with
  | some result => result
  | none =>
    match a, b with
    | finite n c e, finite _ c' e' =>
      if c' = 0 then .error (if c = 0 then .divisionUndefined else .invalidOperation)
      else if (precision : Int) < leadingPower c e - leadingPower c' e' then
        .error .divisionImpossible
      else if leadingPower c e - leadingPower c' e' < -1 then fixed a
      else
        let power := min e e'
        let num := c * tenPow (e - power).toNat
        let den := c' * tenPow (e' - power).toNat
        let rest := num % den
        let isOver := den < 2 * rest || (den = 2 * rest && num / den % 2 = 1)
        if tenPow precision ≤ num / den then .error .divisionImpossible
        else if isOver then rounded (!n) (den - rest) power
        else rounded n rest power
    | infinite _, _ => .error .invalidOperation
    | _, _ => fixed a

/-- The exact product of two decimals, and a third one added to it. -/
def mulAdd (a b c : Decimal) : Except Signal Decimal :=
  let isSignalling := fun d : Decimal => match d with
    | undefined _ signalling _ => signalling
    | _ => false
  if [a, b, c].any isSignalling then .error .invalidOperation
  else
    match a, b with
    | finite n c₁ e₁, finite n' c₂ e₂ =>
      if c.isUndefined then passedOn c else add (finite (n != n') (c₁ * c₂) (e₁ + e₂)) c
    | a, b => (mul a b).bind (add · c)

/-! ### Comparison -/

/-- A decimal among the numbers, infinities at their ends. -/
inductive Position
  | least
  | at (q : Rat)
  | greatest

/-- The place of a decimal, unless it is undefined. -/
def position? : Decimal → Option Position
  | infinite negative => some (if negative then .least else .greatest)
  | undefined .. => none
  | d => d.value?.map .at

/-- The order of two places. -/
def Position.compare : Position → Position → Ordering
  | .least, .least | .greatest, .greatest => .eq
  | .least, _ | _, .greatest => .lt
  | _, .least | .greatest, _ => .gt
  | .at q, .at r => if q < r then .lt else if q = r then .eq else .gt

/-- The order of two decimals; there is none with an undefined one. -/
def compare? (a b : Decimal) : Option Ordering :=
  match a.position?, b.position? with
  | some p, some q => some (p.compare q)
  | _, _ => none

/-! ### Total order -/

/-- The opposite of an order. -/
def reversed : Ordering → Ordering
  | .lt => .gt
  | .eq => .eq
  | .gt => .lt

/-- The place of a decimal among the kinds of them, apart from its sign. -/
def rank : Decimal → Nat
  | finite .. => 0
  | infinite _ => 1
  | undefined _ signalling _ => if signalling then 2 else 3

/-- The order of two decimals by their sizes. -/
def compareSizes (a b : Decimal) : Ordering :=
  match a, b with
  | finite _ c e, finite _ c' e' =>
    match (finite false c e).value?, (finite false c' e').value? with
    | some q, some r => if q < r then .lt else if r < q then .gt else compare e e'
    | _, _ => .eq
  | undefined _ _ payload, undefined _ _ payload' =>
    if a.rank = b.rank then compare payload payload' else compare a.rank b.rank
  | a, b => compare a.rank b.rank

/-- The order of two decimals of whatever kind, which tells all from each other that differ. -/
def compareTotal (a b : Decimal) : Ordering :=
  match a.isNegative, b.isNegative with
  | true, false => .lt
  | false, true => .gt
  | false, false => compareSizes a b
  | true, true => reversed (compareSizes a b)

/-- The order of two decimals as a decimal. -/
def ofOrdering : Ordering → Decimal
  | .lt => ofInt (-1)
  | .eq => ofInt 0
  | .gt => ofInt 1

/-- The order of two decimals as numbers; an undefined one is passed on. -/
def compared (a b : Decimal) : Except Signal Decimal :=
  match undefinedOf? a b, compare? a b with
  | some result, _ => result
  | none, some o => .ok (ofOrdering o)
  | none, none => .error .invalidOperation

/-- The order of two decimals as numbers; none of them may be undefined. -/
def comparedStrictly (a b : Decimal) : Except Signal Decimal :=
  if a.isUndefined || b.isUndefined then .error .invalidOperation else compared a b

/-- The same size without a sign. -/
def unsigned (d : Decimal) : Decimal := d.withSign false

/-- One of two decimals by their order, that of equal ones being the total one. What is undefined
counts for nothing beside a number. -/
def chosen (bySize : Bool) (takesGreater : Bool) (a b : Decimal) : Except Signal Decimal :=
  let order := if bySize then compare? a.unsigned b.unsigned else compare? a b
  match a, b, order with
  | undefined _ true _, _, _ | _, undefined _ true _, _ => .error .invalidOperation
  | undefined .., undefined .., _ => passedOn a
  | undefined .., b, _ => fixed b
  | a, undefined .., _ => fixed a
  | a, b, order =>
    let o := match order with
      | some .eq | none => compareTotal a b
      | some o => o
    fixed (if (o = .lt) = takesGreater then b else a)

/-- The greater of two decimals. -/
def greater : Decimal → Decimal → Except Signal Decimal := chosen false true

/-- The less of two decimals. -/
def less : Decimal → Decimal → Except Signal Decimal := chosen false false

/-- Two decimals have the same exponent, or are both infinite, or both undefined. -/
def hasSameExponent : Decimal → Decimal → Bool
  | finite _ _ e, finite _ _ e' => e = e'
  | infinite _, infinite _ | undefined .., undefined .. => true
  | _, _ => false

/-! ### Moved digits -/

/-- How far digits are moved: an integer no greater than the count of places. -/
def distance? : Decimal → Option Int
  | finite negative n 0 =>
    if n ≤ precision then some (if negative then -(n : Int) else n) else none
  | _ => none

/-- A decimal with another coefficient, made of the one it has and a distance. -/
def moved (move : Nat → Int → Nat) (a b : Decimal) : Except Signal Decimal :=
  match undefinedOf? a b, distance? b, a with
  | some result, _, _ => result
  | none, none, _ => .error .invalidOperation
  | none, some n, finite negative coefficient exponent =>
    .ok (finite negative (move coefficient n) exponent)
  | none, some _, other => .ok other

/-- A decimal with its digits moved to the left, or to the right, and zeros in their place. -/
def shifted : Decimal → Decimal → Except Signal Decimal :=
  moved fun coefficient n =>
    coefficient * tenPow n.toNat / tenPow (-n).toNat % tenPow precision

/-- A decimal with its digits moved to the left, or to the right, around the ends of the row. -/
def rotated : Decimal → Decimal → Except Signal Decimal :=
  moved fun coefficient n =>
    let left := (if n < 0 then n + precision else n).toNat
    let row := coefficient % tenPow precision
    let cut := tenPow (precision - left)
    row % cut * tenPow left + row / cut

/-! ### Zeros and ones -/

/-- The digits of a decimal from the last one on, if they are zeros and ones. -/
def bits? : Decimal → Option (List Bool)
  | finite false coefficient 0 =>
    ((Nat.toDigits 10 coefficient).reverse.mapM fun c =>
      if c = '0' then some false else if c = '1' then some true else none)
  | _ => none

/-- The decimal of the digits from the last one on, as far as they are kept. -/
def ofBits (bits : List Bool) : Decimal :=
  finite false ((bits.take precision).foldr (fun b n => 10 * n + b.toNat) 0) 0

/-- What two decimals of zeros and ones make place by place. -/
def combined (meet : Bool → Bool → Bool) (a b : Decimal) : Except Signal Decimal :=
  match bits? a, bits? b with
  | some xs, some ys =>
    .ok (ofBits ((List.range precision).map fun i => meet (xs.getD i false) (ys.getD i false)))
  | _, _ => .error .invalidOperation

/-- A decimal of zeros and ones with each in place of the other. -/
def inverted (a : Decimal) : Except Signal Decimal :=
  match bits? a with
  | some xs => .ok (ofBits ((List.range precision).map fun i => !xs.getD i false))
  | none => .error .invalidOperation

end SheetExport.Decimal
