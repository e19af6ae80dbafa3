/-
**Floats in hexadecimal digits.**

Four binary places make one digit, so that a float is written exactly: its first digit, thirteen
digits of its fraction, and the power of two that they are multiplied by. Reading a text rounds to
the nearest float what has more digits than one holds.
-/

import SheetExport.Number.Numeral
import SheetExport.Number.Shortest
import SheetExport.Text.Quoted

namespace SheetExport

/-- A float in hexadecimal digits. -/
def hexFloatText (x : Float) : String :=
  match Binary.ofFloat? x with
  | none => floatText x
  | some b =>
    let sign := if b.negative then "-" else ""
    if b.mantissa = 0 then sign ++ "0x0.0p+0"
    else
      let first := if b.mantissa < twoPow 52 then "0" else "1"
      let power := b.exponent + 52
      sign ++ "0x" ++ first ++ "." ++ String.ofList (Text.hexDigits 13 (b.mantissa % twoPow 52)) ++
        "p" ++ (if power < 0 then "-" else "+") ++ toString power.natAbs

/-- What a text of hexadecimal digits writes. -/
inductive HexNumeral
  | number (x : Float)
  | tooLarge
  | malformed
deriving Inhabited

namespace HexNumeral

/-- The value of a hexadecimal digit. -/
def digit? (c : Char) : Option Nat :=
  if c.isDigit then some (c.toNat - '0'.toNat)
  else if 'a' ≤ c.toLower ∧ c.toLower ≤ 'f' then some (c.toLower.toNat - 'a'.toNat + 10)
  else none

/-- The value of hexadecimal digits. -/
def valueOf (cs : List Char) : Nat := (cs.filterMap digit?).foldl (fun n d => 16 * n + d) 0

/-- The power of two after the digits of a number, if it is well-formed. -/
def power? : List Char → Option Int
  | [] => some 0
  | mark :: rest =>
    let (negative, digits) := match rest with
      | '-' :: more => (true, more)
      | '+' :: more => (false, more)
      | more => (false, more)
    if (mark = 'p' ∨ mark = 'P') ∧ !digits.isEmpty ∧ digits.all Char.isDigit then
      let n : Int := Text.digitsValue digits
      some (if negative then -n else n)
    else none

/-- Powers of two beyond which a number is zero or too large. -/
def powerLimit : Nat := 20000

/-- The float of a coefficient times a power of two. -/
def ofScaled (negative : Bool) (coefficient : Nat) (power : Int) : HexNumeral :=
  let leading : Int := power + coefficient.log2
  if coefficient = 0 then number (signedFloat negative 0.0)
  else if (powerLimit : Int) < leading then tooLarge
  else if leading < -(powerLimit : Int) then number (signedFloat negative 0.0)
  else
    let x := nearestFloat (coefficient * twoPow power.toNat) (twoPow (-power).toNat)
    if x.isInf then tooLarge else number (signedFloat negative x)

/-- The number that a text without space around it writes. -/
def read (cs : List Char) : HexNumeral :=
  let (negative, body) := match cs with
    | '-' :: rest => (true, rest)
    | '+' :: rest => (false, rest)
    | rest => (false, rest)
  let lower := String.ofList (body.map Char.toLower)
  if lower = "inf" ∨ lower = "infinity" then number (signedFloat negative (1.0 / 0.0))
  else if lower = "nan" then number (0.0 / 0.0)
  else
    let digits := match body with
      | '0' :: mark :: rest => if mark = 'x' ∨ mark = 'X' then rest else body
      | _ => body
    let isDigit := fun c => (digit? c).isSome
    let whole := digits.takeWhile isDigit
    let (fraction, rest) := match digits.dropWhile isDigit with
      | '.' :: more => (more.takeWhile isDigit, more.dropWhile isDigit)
      | more => ([], more)
    match power? rest with
    | none => malformed
    | some power =>
      if whole.isEmpty ∧ fraction.isEmpty then malformed
      else ofScaled negative (valueOf (whole ++ fraction)) (power - 4 * (fraction.length : Int))

end HexNumeral

end SheetExport
