/-
**Numbers as they are written by hand.**

A number may have white space around it, low lines between its digits, and the digits of any script.
`Written.integer?` and `Written.float?` read such texts; a float may also be an infinity or
undefined.
-/

import SheetExport.Number.Decimal
import SheetExport.Text.Ranges

namespace SheetExport.Written

/-- A number without the white space around it, among which the information separators do not
count. -/
def trim (cs : List Char) : List Char :=
  let isSeparator := fun c : Char => 28 ≤ c.toNat && c.toNat ≤ 31
  Text.trimBy (fun c => Text.isBlank c && !isSeparator c) cs

/-- A number without white space around it and low lines between its digits. -/
def body? (cs : List Char) : Option (List Char) :=
  withoutLowLines Text.isDecimalDigit false (trim cs)

/-- The most digits that an integer may be written with. -/
def maxIntegerDigits : Nat := 4300

/-- The integer that a number without white space and low lines is. -/
def readInteger? (cs : List Char) : Option Int :=
  let digits := match cs with
    | c :: rest => if isSign c then rest else cs
    | [] => []
  if digits.length ≤ maxIntegerDigits then readExponent? cs else none

/-- The infinity, or the undefined float, that a text writes. -/
def readSpecialFloat? (cs : List Char) : Option Float :=
  let (negative, body) := Decimal.splitSign cs
  let lower := body.map Char.toLower
  if lower = "inf".toList ∨ lower = "infinity".toList then some (signedFloat negative (1.0 / 0.0))
  else if lower = "nan".toList then some (0.0 / 0.0)
  else none

/-- The float that a number without white space and low lines is. -/
def readFloat? (cs : List Char) : Option Float :=
  match readNumber? cs with
  | some x => some x
  | none => readSpecialFloat? cs

/-- The integer that a text writes. -/
def integer? (cs : List Char) : Option Int := (body? cs).bind readInteger?

/-- The float that a text writes, perhaps an infinity or an undefined one. -/
def float? (cs : List Char) : Option Float := (body? cs).bind readFloat?

end SheetExport.Written
