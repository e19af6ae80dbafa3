/-
**Decimal numerals.**

A numeral is an optional sign, decimal digits of any script with at most one point among or around
them, and possibly an exponent. `scanNumber` takes the longest numeral without exponent off the
front of a text, which is what a number token is; `readNumber?` reads a whole text, exponent
included. Both get their value from `numeralValue`, so a token and the same text in a cell are the
same number.
-/

import SheetExport.Text.Ranges
import SheetExport.Number.Binary

namespace SheetExport

open Text (isDecimalDigit digitsValue)

/-- The number of decimal digits of a natural number. -/
def digitCount (n : Nat) : Nat := (Nat.toDigits 10 n).length

/-- Exponents of ten: below the first every number rounds to zero, above the second to infinity. -/
def floatExponents : Int × Int := (-330, 310)

/-- `coefficient * 10 ^ exponent`, rounded to the nearest float; what is far out of the range of
floats is decided by its count of digits alone. -/
def scientificFloat (coefficient : Nat) (exponent : Int) : Float :=
  let leading := exponent + digitCount coefficient
  if coefficient = 0 ∨ leading < floatExponents.1 then 0.0
  else if floatExponents.2 < leading then 1.0 / 0.0
  else Float.ofScientific coefficient (decide (exponent < 0)) exponent.natAbs

/-- The longest unsigned numeral without exponent at the front of a text, and the rest. -/
def scanMagnitude (cs : List Char) : Option (List Char × List Char) :=
  let whole := cs.takeWhile isDecimalDigit
  match whole, cs.dropWhile isDecimalDigit with
  | [], '.' :: rest =>
    match rest.takeWhile isDecimalDigit with
    | [] => none
    | fraction => some ('.' :: fraction, rest.dropWhile isDecimalDigit)
  | [], _ => none
  | _, '.' :: rest =>
    some (whole ++ '.' :: rest.takeWhile isDecimalDigit, rest.dropWhile isDecimalDigit)
  | _, rest => some (whole, rest)

/-- A plus or a minus. -/
def isSign (c : Char) : Bool := c = '+' || c = '-'

/-- The longest numeral without exponent at the front of a text, and the rest. -/
def scanNumber : List Char → Option (List Char × List Char)
  | [] => none
  | c :: cs =>
    if isSign c then (scanMagnitude cs).map fun (lexeme, rest) => (c :: lexeme, rest)
    else scanMagnitude (c :: cs)

/-- The number that a numeral without exponent writes, times a power of ten. -/
def numeralValue (numeral : List Char) (exponent : Int) : Float :=
  let body := numeral.dropWhile isSign
  let whole := body.takeWhile isDecimalDigit
  let fraction := (body.dropWhile isDecimalDigit).drop 1
  signedFloat (numeral.head? = some '-')
    (scientificFloat (digitsValue (whole ++ fraction)) (exponent - fraction.length))

/-- The integer that an optionally signed, nonempty text of digits writes. -/
def readExponent? : List Char → Option Int
  | [] => none
  | c :: cs =>
    let digits := if isSign c then cs else c :: cs
    if !digits.isEmpty && digits.all isDecimalDigit then
      some (if c = '-' then -(digitsValue digits : Int) else digitsValue digits)
    else none

/-- A text without low lines, if each of them stands between two digits. -/
def withoutLowLines (isDigit : Char → Bool) (previousIsDigit : Bool) :
    List Char → Option (List Char)
  | [] => some []
  | '_' :: c :: cs =>
    if previousIsDigit && isDigit c then (withoutLowLines isDigit true cs).map (c :: ·) else none
  | ['_'] => none
  | c :: cs => (withoutLowLines isDigit (isDigit c) cs).map (c :: ·)

/-- The number that a text writes, if the whole of it is a numeral with or without exponent. -/
def readNumber? (cs : List Char) : Option Float :=
  match scanNumber cs with
  | none => none
  | some (numeral, []) => some (numeralValue numeral 0)
  | some (numeral, mark :: rest) =>
    if mark = 'e' ∨ mark = 'E' then (readExponent? rest).map (numeralValue numeral) else none

end SheetExport
