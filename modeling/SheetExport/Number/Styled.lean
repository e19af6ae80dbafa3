/-
**Numbers in a style of writing.**

A style writes a number with fixed places, with an exponent, or in the shorter of both ways. All
digits are rounded exactly, a tie going to the even neighbour. A written number comes apart into its
sign, its whole digits and the rest (`StyledNumber`), since a layout may separate groups of the
whole digits and put zeros in front of them.
-/

import SheetExport.Number.Shortest

namespace SheetExport

/-- A written number: its sign, the digits before the point, and everything after them. -/
structure StyledNumber where
  negative : Bool
  whole : List Char
  rest : List Char

/-! ### Digits -/

/-- The digits of a quotient before the point, and so many after it. -/
def fixedDigits (places num den : Nat) : List Char × List Char :=
  let units := roundQuotient (num * tenPow places) den
  let digits := Nat.toDigits 10 units
  let padded := List.replicate (places + 1 - digits.length) '0' ++ digits
  (padded.take (padded.length - places), padded.drop (padded.length - places))

/-- So many leading digits of a quotient, and the power of ten of the first. -/
def leadingDigits (count num den : Nat) : List Char × Int :=
  if num = 0 then (List.replicate count '0', 0)
  else
    let power := floorLogTen num den
    let shift : Int := (count : Int) - 1 - power
    let digits := roundQuotient (num * tenPow shift.toNat) (den * tenPow (-shift).toNat)
    if digits = tenPow count then (Nat.toDigits 10 (digits / 10), power + 1)
    else (Nat.toDigits 10 digits, power)

/-- An exponent with its sign and at least two digits. -/
def powerText (power : Int) : List Char :=
  let digits := Nat.toDigits 10 power.natAbs
  'e' :: (if power < 0 then '-' else '+') :: (List.replicate (2 - digits.length) '0' ++ digits)

/-! ### Styles -/

/-- How a float is written. -/
inductive NumberStyle
  /-- With so many places. -/
  | fixed (places : Nat)
  /-- With so many places after the first digit, and an exponent. -/
  | exponent (places : Nat)
  /-- With so many digits in all, with an exponent only for what is too great or too small. -/
  | general (digits : Nat)
  /-- The same, with a place after the point. -/
  | pointed (digits : Nat)
  /-- With as many digits as read back. -/
  | shortest

/-- What follows the point; without anything, the point stands only if it is asked for. -/
def afterPoint (keepsPoint : Bool) (digits : List Char) : List Char :=
  if digits.isEmpty && !keepsPoint then [] else '.' :: digits

/-- Digits without the zeros at their end. -/
def withoutEndZeros (digits : List Char) : List Char :=
  (digits.reverse.dropWhile (· = '0')).reverse

/-- Digits with the point at a place, or with an exponent. -/
def generalDigits (keeps : Bool) (isPointed : Bool) (count : Nat) (digits : List Char)
    (power : Int) : List Char × List Char :=
  let kept := fun cs => if keeps then cs else withoutEndZeros cs
  let most : Int := if isPointed then count - 1 else count
  if power < -4 || most ≤ power then
    (digits.take 1, afterPoint keeps (kept (digits.drop 1)) ++ powerText power)
  else
    let (whole, places) :=
      if power < 0 then (['0'], List.replicate (-power - 1).toNat '0' ++ digits)
      else (digits.take (power.toNat + 1), digits.drop (power.toNat + 1))
    let places := kept places
    (whole, afterPoint keeps (if isPointed && places.isEmpty then ['0'] else places))

/-- A quotient in a style, before and from the point on. -/
def styledDigits (style : NumberStyle) (keeps : Bool) (num den : Nat) : List Char × List Char :=
  match style with
  | .fixed places =>
    let (whole, places) := fixedDigits places num den
    (whole, afterPoint keeps places)
  | .exponent places =>
    let (digits, power) := leadingDigits (places + 1) num den
    (digits.take 1, afterPoint keeps (digits.drop 1) ++ powerText power)
  | .general count =>
    let count := max 1 count
    let (digits, power) := leadingDigits count num den
    generalDigits keeps false count digits power
  | .pointed count =>
    let count := max 1 count
    let (digits, power) := leadingDigits count num den
    generalDigits keeps true count digits power
  | .shortest => ([], [])

/-- The end of a number with a point, if it is asked for. -/
def keepPoint (keeps : Bool) (rest : List Char) : List Char :=
  if keeps && rest.head? ≠ some '.' then '.' :: rest else rest

/-- A float in a style. What is not finite has no whole digits. -/
def styledFloat (style : NumberStyle) (keeps : Bool) (x : Float) : StyledNumber :=
  match Binary.ofFloat? x with
  | none => ⟨x < 0.0, [], if x.isNaN then "nan".toList else "inf".toList⟩
  | some b =>
    let (whole, rest) := match style with
      | .shortest =>
        let cs := (floatText x.abs).toList
        (cs.takeWhile Char.isDigit, keepPoint keeps (cs.dropWhile Char.isDigit))
      | style =>
        let (num, den) := b.quotient
        styledDigits style keeps num den
    ⟨b.negative, whole, rest⟩

/-! ### Groups of digits -/

/-- Digits from the last one on, in groups of a size with a mark between them, until they and zeros
in front of them fill a width. -/
def groupedFrom (mark : Char) (size : Nat) : Nat → Nat → List Char → List Char
  | 0, _, backwards => backwards
  | fuel + 1, width, backwards =>
    let length := min size (max (max backwards.length width) 1)
    let group := backwards.take length
    let filled := group ++ List.replicate (length - group.length) '0'
    let rest := backwards.drop length
    let width := width - length
    if rest.isEmpty && width = 0 then filled
    else filled ++ mark :: groupedFrom mark size fuel (width - 1) rest

/-- Digits in groups of a size with a mark between them, with zeros in front up to a width. -/
def groupedDigits (mark : Option (Char × Nat)) (width : Nat) (digits : List Char) : List Char :=
  match mark with
  | none => List.replicate (width - digits.length) '0' ++ digits
  | some (mark, size) =>
    (groupedFrom mark size (digits.length + width + 1) width digits.reverse).reverse

end SheetExport
