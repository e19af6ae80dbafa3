/-
**Quoted texts, as error messages show them.**

A text is shown between single quotes, or between double quotes if it has a single quote and no
double one. A backslash, the quote in use and the characters that would not print are escaped:
line feed, carriage return and tab by a letter, the rest by their code point in two, four or eight
hexadecimal digits.
-/

import SheetExport.Text.Unassigned

namespace SheetExport.Text

/-- Controls, format characters, private use and every separator but the plain space. -/
def unprintableRanges : Ranges := [
  (0, 31), (127, 160), (173, 173), (1536, 1541), (1564, 1564), (1757, 1757), (1807, 1807),
  (2192, 2193), (2274, 2274), (5760, 5760), (6158, 6158), (8192, 8207), (8232, 8239),
  (8287, 8292), (8294, 8303), (12288, 12288), (57344, 63743), (65279, 65279), (65529, 65531),
  (69821, 69821), (69837, 69837), (78896, 78904), (113824, 113827), (119155, 119162),
  (917505, 917505), (917536, 917631), (983040, 1048573), (1048576, 1114109)]

/-- Shown as itself between quotes. -/
def isPrintable (c : Char) : Bool := !(unprintableRanges.covers c.toNat || isUnassigned c)

/-- The lower-case hexadecimal digits of a number, padded with zeros to a width. -/
def hexDigits (width n : Nat) : List Char :=
  let digits := Nat.toDigits 16 n
  List.replicate (width - digits.length) '0' ++ digits

/-- What is added to half of a pair of code units that stands alone, to keep it as a character. -/
def loneOffset : Nat := 0x100000

/-- Half of a pair of code units. -/
def isHalf (code : Nat) : Bool := 0xD800 ≤ code && code < 0xE000

/-- The character of a code point; half of a pair of code units is kept as a character of its
own. -/
def charOfCode (code : Nat) : Char := Char.ofNat (if isHalf code then code + loneOffset else code)

/-- The code point of a character, or of the half of a pair that it stands for. -/
def codeOf (c : Char) : Nat := if isHalf (c.toNat - loneOffset) then c.toNat - loneOffset else c.toNat

/-- The escape of a character that does not print. -/
def codePointEscape (c : Char) : List Char :=
  let code := codeOf c
  if code < 0x100 then ['\\', 'x'] ++ hexDigits 2 code
  else if code < 0x10000 then ['\\', 'u'] ++ hexDigits 4 code
  else ['\\', 'U'] ++ hexDigits 8 code

/-- A character as it stands between the given quotes. -/
def quotedChar (quote c : Char) : List Char :=
  if c = quote ∨ c = '\\' then ['\\', c]
  else if c = '\n' then ['\\', 'n']
  else if c = '\r' then ['\\', 'r']
  else if c = '\t' then ['\\', 't']
  else if isPrintable c then [c]
  else codePointEscape c

/-- The quotes that a text is shown between. -/
def quoteFor (cs : List Char) : Char :=
  if cs.contains '\'' && !cs.contains '"' then '"' else '\''

/-- A text between quotes with all characters escaped that are none of ASCII. -/
def quotedPlain (s : String) : String :=
  let quote := quoteFor s.toList
  let shown := fun c : Char => if c.toNat < 128 then quotedChar quote c else codePointEscape c
  String.ofList (quote :: s.toList.flatMap shown ++ [quote])

/-- A text between quotes, on one line and free of characters that do not print. -/
def quoted (s : String) : String :=
  let quote := quoteFor s.toList
  String.ofList (quote :: s.toList.flatMap (quotedChar quote) ++ [quote])

end SheetExport.Text
