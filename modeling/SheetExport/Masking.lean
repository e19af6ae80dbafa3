/-
**Masking of sensitive texts.**

A masking strategy replaces part of a text. Most strategies keep some characters at either end and
cover the others by the mask character, which keeps the length; some recognise a number of digits or
of parts and give the text a fixed shape. Values other than texts are left as they are.
-/

import SheetExport.Text.Parts
import SheetExport.Value.Cell

namespace SheetExport

/-! ### Covering characters -/

/-- The usual mask. -/
def maskChar : List Char := ['*']

/-- Covers all but the last `visible` characters. -/
def maskLeft (visible : Int) (mask cs : List Char) : List Char :=
  if cs.isEmpty ∨ (cs.length : Int) ≤ visible then cs
  else Text.repeated (cs.length - visible) mask ++ Text.fromOn (cs.length - visible) cs

/-- Covers all but the first `visible` characters. -/
def maskRight (visible : Int) (mask cs : List Char) : List Char :=
  if cs.isEmpty ∨ (cs.length : Int) ≤ visible then cs
  else Text.before visible cs ++ Text.repeated (cs.length - visible) mask

/-- Covers all but the first `left` and the last `right` characters. -/
def maskMiddle (left right : Int) (mask cs : List Char) : List Char :=
  if cs.isEmpty ∨ (cs.length : Int) ≤ left + right then cs
  else Text.before left cs ++ Text.repeated (cs.length - left - right) mask ++
    Text.fromOn (cs.length - right) cs

/-- Covers every character. -/
def maskAll (mask cs : List Char) : List Char := Text.repeated cs.length mask

/-! ### Strategies -/

/-- The masking strategies. -/
inductive Masking
  | none | phone | email | ssn | name | creditCard | accountNumber | address | zipCode | ipAddress
  | idCard | passport | licensePlate | partialLeft | partialRight | middle
deriving Repr, DecidableEq

namespace Masking

/-- The ASCII digits of a text. -/
def digitsOf (cs : List Char) : List Char := cs.filter Char.isDigit

/-- `count` mask characters. -/
def stars (count : Nat) : List Char := List.replicate count '*'

/-- The first `lead` characters, mask characters, and the characters from position `tail` on. -/
def dashed (lead masked tail : Nat) (digits : List Char) : List Char :=
  digits.take lead ++ '-' :: stars masked ++ '-' :: digits.drop tail

/-- Telephone numbers of eleven, ten or nine digits keep their first and last ones. -/
def maskPhone (cs : List Char) : List Char :=
  let digits := digitsOf cs
  match digits.length with
  | 11 => dashed 3 4 7 digits
  | 10 => dashed 2 4 6 digits
  | 9 => dashed 2 3 5 digits
  | _ => maskMiddle 3 4 maskChar cs

/-- Addresses keep the first character and everything from the first `@` on. -/
def maskEmail (cs : List Char) : List Char :=
  match cs, cs.dropWhile (· ≠ '@') with
  | _, [] => cs
  | '@' :: _, _ => cs
  | first :: _, domain => first :: stars 3 ++ domain
  | [], _ => cs

/-- Numbers of thirteen digits keep the first six; others what comes before the first dash, if
any. -/
def maskSsn (cs : List Char) : List Char :=
  let digits := digitsOf cs
  if digits.length = 13 then
    digits.take 6 ++ (if cs.contains '-' then ['-'] else []) ++ stars 7
  else
    let lead := (cs.takeWhile (· ≠ '-')).length
    if 0 < lead ∧ lead < cs.length then cs.take (lead + 1) ++ stars (cs.length - lead - 1)
    else maskRight 6 maskChar cs

/-- Names keep their first character, and from three characters on their last one. -/
def maskName (cs : List Char) : List Char :=
  match cs with
  | [] => []
  | [only] => [only]
  | [first, _] => first :: stars 1
  | first :: rest => first :: stars (rest.length - 1) ++ rest.drop (rest.length - 1)

/-- Numbers of sixteen digits keep the last four. -/
def maskCreditCard (cs : List Char) : List Char :=
  let digits := digitsOf cs
  if digits.length = 16 then
    (if cs.contains '-' then "****-****-****-".toList else stars 12) ++ digits.drop 12
  else maskRight 4 maskChar cs

/-- Numbers of three parts keep the first part and the last three characters. -/
def maskAccountNumber (cs : List Char) : List Char :=
  match Text.leadingParts '-' cs with
  | [first, _, last] =>
    first ++ "-***-".toList ++ stars (last.length - 3) ++ last.drop (last.length - 3)
  | _ => maskMiddle 4 3 maskChar cs

/-- Postal addresses keep two words of three or more, or one of two. -/
def maskAddress (cs : List Char) : List Char :=
  match Text.leadingParts ' ' cs with
  | first :: second :: _ :: _ => first ++ ' ' :: second ++ ' ' :: stars 3
  | [first, _] => first ++ ' ' :: stars 3
  | _ => maskRight 0 maskChar cs

/-- Codes of five or six digits keep the first three. -/
def maskZipCode (cs : List Char) : List Char :=
  let digits := digitsOf cs
  match digits.length with
  | 5 => digits.take 3 ++ stars 2
  | 6 => digits.take 3 ++ stars 3
  | _ => cs.take 3 ++ stars (cs.length - 3)

/-- Network addresses of four numbers, or of parts between colons, keep the first two. -/
def maskIpAddress (cs : List Char) : List Char :=
  if cs.contains '.' then
    match Text.leadingParts '.' cs with
    | [first, second, _, _] => first ++ '.' :: second ++ ".*.*".toList
    | _ => cs
  else
    match Text.leadingParts ':' cs with
    | first :: second :: _ =>
      first ++ ':' :: second ++ (List.replicate 6 ":****".toList).flatten
    | _ => cs

/-- Numbers with at least ten digits keep their first third, others six characters. -/
def maskIdCard (cs : List Char) : List Char :=
  maskRight (if 10 ≤ (digitsOf cs).length then cs.length / 3 else 6 : Nat) maskChar cs

/-- Short numbers keep two characters, others three at either end. -/
def maskPassport (cs : List Char) : List Char :=
  if cs.length ≤ 6 then maskMiddle 2 0 maskChar cs else maskMiddle 3 3 maskChar cs

/-- Plates of more than four characters lose the two before the last two. -/
def maskLicensePlate (cs : List Char) : List Char :=
  if cs.length ≤ 4 then cs else maskMiddle (cs.length - 4) 2 maskChar cs

/-- The masked form of a text. -/
def mask : Masking → List Char → List Char
  | _, [] => []
  | none, cs => cs
  | phone, cs => maskPhone cs
  | email, cs => maskEmail cs
  | ssn, cs => maskSsn cs
  | name, cs => maskName cs
  | creditCard, cs => maskCreditCard cs
  | accountNumber, cs => maskAccountNumber cs
  | address, cs => maskAddress cs
  | zipCode, cs => maskZipCode cs
  | ipAddress, cs => maskIpAddress cs
  | idCard, cs => maskIdCard cs
  | passport, cs => maskPassport cs
  | licensePlate, cs => maskLicensePlate cs
  | partialLeft, cs => maskLeft 4 maskChar cs
  | partialRight, cs => maskRight 4 maskChar cs
  | middle, cs => maskMiddle 2 2 maskChar cs

/-! ### Names -/

/-- All strategies. -/
def all : List Masking :=
  [none, phone, email, ssn, name, creditCard, accountNumber, address, zipCode, ipAddress, idCard,
    passport, licensePlate, partialLeft, partialRight, middle]

/-- The name under which a strategy is declared. -/
def label : Masking → String
  | none => "none"
  | phone => "phone"
  | email => "email"
  | ssn => "ssn"
  | name => "name"
  | creditCard => "credit_card"
  | accountNumber => "account_number"
  | address => "address"
  | zipCode => "zip_code"
  | ipAddress => "ip_address"
  | idCard => "id_card"
  | passport => "passport"
  | licensePlate => "license_plate"
  | partialLeft => "partial_left"
  | partialRight => "partial_right"
  | middle => "middle"

/-- The strategy of a name. -/
def ofLabel? (s : String) : Option Masking := all.find? (·.label = s)

/-! ### Values -/

/-- The masked form of a text as a text. -/
def maskText (m : Masking) (s : String) : String := String.ofList (m.mask s.toList)

/-- Masks a text and leaves other values alone; a masked member of an enumeration is a plain
text. -/
def maskValue (m : Masking) : Value → Value
  | .text s | .textMember _ s => .text (m.maskText s)
  | v => v

/-- Masks a value by the strategy of a name; the name has to be known only where there is a text. -/
def maskNamed? (name : String) (v : Value) : Option Value :=
  match v with
  | .text _ | .textMember _ _ => (ofLabel? name).map (·.maskValue v)
  | other => some other

/-- Masks a text in a cell and leaves other values alone. -/
def maskCell (m : Masking) : CellValue → CellValue
  | .text s => .text (m.maskText s)
  | v => v

end Masking

end SheetExport
