/-
**The shortest text of a float.**

Of all decimal numerals that read back as a given float, the shortest text has the fewest digits,
and among those the one nearest to the float. The grid of decimals with one, two, … seventeen
digits is searched in turn; on each grid only the two neighbours of the float can read back, and
the nearer one is tried first. Positional notation is used from `10 ^ -4` up to below `10 ^ 16`,
always with a point; beyond, an exponent of at least two digits.

* `shortest?_eq_some`: what the search finds reads back.
-/

import SheetExport.Number.Numeral

namespace SheetExport

/-- The exponent of the greatest power of ten that is at most the positive quotient. -/
def floorLogTen (num den : Nat) : Int :=
  if den ≤ num then (digitCount (num / den) : Int) - 1
  else
    let guess := digitCount (den / num)
    if den ≤ num * tenPow (guess - 1) then 1 - (guess : Int) else -(guess : Int)

/-- The two neighbours of a quotient on the grid of multiples of `10 ^ exponent`, nearer first. -/
def gridNeighbours (num den : Nat) (exponent : Int) : List Nat :=
  let scaled := num * tenPow (-exponent).toNat
  let unit := den * tenPow exponent.toNat
  let below := scaled / unit
  if roundQuotient scaled unit = below then [below, below + 1] else [below + 1, below]

/-- A coefficient and an exponent of ten. -/
abbrev Scientific := Nat × Int

/-- The first candidate, by number of digits and then by distance, that reads back as `x`. -/
def shortest? (x : Float) (num den : Nat) : Option Scientific :=
  let leading := floorLogTen num den
  let candidates := (List.range 17).flatMap fun (more : Nat) =>
    (gridNeighbours num den (leading - more)).map fun n => (n, leading - (more : Int))
  candidates.find? fun (n, e) => scientificFloat n e == x

/-- What the search finds reads back as the number searched for. -/
theorem shortest?_eq_some {x : Float} {num den n : Nat} {e : Int}
    (found : shortest? x num den = some (n, e)) : (scientificFloat n e == x) = true := by
  simpa using List.find?_some found

/-- The digits of a coefficient without the zeros at their end, and how many zeros those were. -/
def significantDigits (n : Nat) : List Char × Nat :=
  let digits := Nat.toDigits 10 n
  let kept := (digits.reverse.dropWhile (· = '0')).reverse
  (kept, digits.length - kept.length)

/-- Which numbers are written positionally, by the exponent of their leading digit. -/
structure PositionalRange where
  least : Int
  beyond : Int

/-- From `10 ^ -4` up to below `10 ^ 16`. -/
def positionalRange : PositionalRange := ⟨-4, 16⟩

/-- Digits with a point `before` places after their beginning, with zeros where places are
missing. -/
def positionalText (digits : List Char) (before : Int) : List Char :=
  if before ≤ 0 then '0' :: '.' :: List.replicate (-before).toNat '0' ++ digits
  else if (digits.length : Int) ≤ before then
    digits ++ List.replicate (before - digits.length).toNat '0' ++ ['.', '0']
  else digits.take before.toNat ++ '.' :: digits.drop before.toNat

/-- Digits with a point after the first one, if there are more, and the exponent of the first. -/
def exponentText (digits : List Char) (exponent : Int) : List Char :=
  let mantissa := match digits with
    | first :: second :: rest => first :: '.' :: second :: rest
    | short => short
  let power := Nat.toDigits 10 exponent.natAbs
  mantissa ++ 'e' :: (if exponent < 0 then '-' else '+')
    :: (List.replicate (2 - power.length) '0' ++ power)

/-- The text of a positive number from its shortest form. -/
def scientificText (range : PositionalRange) (s : Scientific) : List Char :=
  let (digits, zeros) := significantDigits s.1
  let leading := s.2 + zeros + digits.length - 1
  if range.least ≤ leading ∧ leading < range.beyond then positionalText digits (leading + 1)
  else exponentText digits leading

/-- The shortest text that reads back as the number. -/
def floatText (x : Float) : String :=
  match Binary.ofFloat? x with
  | none => if x.isNaN then "nan" else if x < 0 then "-inf" else "inf"
  | some b =>
    let magnitude :=
      if b.mantissa = 0 then ['0', '.', '0']
      else
        let (num, den) := b.quotient
        scientificText positionalRange
          ((shortest? (signedFloat b.negative x) num den).getD (0, 0))
    String.ofList (if b.negative then '-' :: magnitude else magnitude)

end SheetExport
