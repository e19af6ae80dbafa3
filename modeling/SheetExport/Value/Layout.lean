/-
**Values in layouts.**

A layout is written as a fill and an alignment, a sign, a width, a mark between groups of digits,
places, and a letter for the kind of text (`Layout.read`). Texts, integers, floats, complex numbers
and decimals each take only some of these (`Value.layOut`); dates and times take a pattern instead,
and other values take no layout at all.
-/

import SheetExport.Calendar.Pattern
import SheetExport.Number.Styled
import SheetExport.Value.Numeric

namespace SheetExport

/-- On which side of a field a text stands. -/
inductive Alignment
  | left | right | centre
  /-- The sign of a number on the left, its digits on the right. -/
  | apart
deriving Repr, DecidableEq

/-- The alignment that a mark stands for. -/
def Alignment.ofMark? : Char → Option Alignment
  | '<' => some .left
  | '>' => some .right
  | '^' => some .centre
  | '=' => some .apart
  | _ => none

/-- A layout. -/
structure Layout where
  /-- What fills the field up, if it is given. -/
  fill : Option Char := none
  alignment : Option Alignment := none
  /-- What stands in front of a number that is not negative. -/
  sign : Option Char := none
  /-- A zero has no sign. -/
  plainZero : Bool := false
  /-- A base is named, or a point kept. -/
  isNamed : Bool := false
  /-- Zeros stand between the sign of a number and its digits. -/
  zeros : Bool := false
  width : Nat := 0
  /-- The width is written with a zero in front that means nothing else. -/
  paddedWidth : Bool := false
  /-- The mark between groups of digits. -/
  groups : Option Char := none
  places : Option Nat := none
  /-- The letter of a kind of text at the end. -/
  kind : Option Char := none

/-- The digits at the front of a text as a number, if there are any, and the rest. -/
def takeNumber (cs : List Char) : Option Nat × List Char :=
  match cs.takeWhile Char.isDigit with
  | [] => (none, cs)
  | digits => (some (Text.digitsValue digits), cs.dropWhile Char.isDigit)

namespace Layout

/-- Refuses a layout, in the given words. -/
def refuse {α : Type} (text : String) : Except Fault α := .error (.issue .value text)

/-- Something at the front of a text that a condition holds for, and the rest. -/
def takeIf (holds : Char → Bool) (cs : List Char) : Option Char × List Char :=
  match cs with
  | c :: rest => if holds c then (some c, rest) else (none, cs)
  | [] => (none, [])

/-- The fill and the alignment at the front of a text, and the rest. -/
def takeAlignment (cs : List Char) : Option Char × Option Alignment × List Char :=
  match cs with
  | fill :: mark :: rest =>
    match Alignment.ofMark? mark, Alignment.ofMark? fill with
    | some side, _ => (some fill, some side, rest)
    | none, some side => (none, some side, mark :: rest)
    | none, none => (none, none, cs)
  | [mark] =>
    let side := Alignment.ofMark? mark
    (none, side, if side.isSome then [] else cs)
  | [] => (none, none, [])

/-- The marks between groups of digits at the front of a text. -/
def takeGroups (cs : List Char) : Except Fault (Option Char × List Char) :=
  let (comma, cs) := takeIf (· = ',') cs
  let (low, rest) := takeIf (· = '_') cs
  if comma.isSome && low.isSome || (low.isSome && rest.head? == some ',') then
    refuse "Cannot specify both ',' and '_'."
  else .ok (comma.or low, rest)

/-- A number that is no greater than any width can be. -/
def checkNumber (n : Option Nat) : Except Fault Unit :=
  if n.any (twoPow 63 ≤ ·) then refuse "Too many decimal digits in format string" else .ok ()

/-- A character as messages name it. -/
def kindText (c : Char) : String :=
  if 32 < c.toNat && c.toNat < 128 then String.singleton c
  else "\\x" ++ String.ofList (Nat.toDigits 16 c.toNat)

/-- Groups of digits go with some kinds of text only, of which one is usual for values of a
type. -/
def checkGroups (l : Layout) (usual : Char) : Except Fault Unit :=
  let kind := l.kind.getD usual
  match l.groups with
  | some mark =>
    if "deEfFgG%".toList.contains kind || (mark = '_' && "boxX".toList.contains kind) then .ok ()
    else
      refuse ("Cannot specify '" ++ String.singleton mark ++ "' with '" ++ kindText kind ++ "'.")
  | none => .ok ()

/-- The layout that a text writes for values of a type. -/
def read (type : String) (usual : Char) (text : String) : Except Fault Layout := do
  let (fill, alignment, cs) := takeAlignment text.toList
  let (sign, cs) := takeIf (fun c => c = ' ' || c = '+' || c = '-') cs
  let (plain, cs) := takeIf (· = 'z') cs
  let (named, cs) := takeIf (· = '#') cs
  let (zero, cs) := if fill.isNone then takeIf (· = '0') cs else (none, cs)
  let paddedWidth := cs.head? == some '0'
  let (width, cs) := takeNumber cs
  checkNumber width
  let (groups, cs) ← takeGroups cs
  let (point, cs) := takeIf (· = '.') cs
  let (places, cs) := if point.isSome then takeNumber cs else (none, cs)
  checkNumber places
  if point.isSome && places.isNone then refuse "Format specifier missing precision"
  let kind ← match cs with
    | [] => pure none
    | [kind] => pure (some kind)
    | _ => refuse ("Invalid format specifier '" ++ text ++ "' for object of type '" ++ type ++ "'")
  let layout : Layout :=
    { fill, alignment, sign, plainZero := plain.isSome, isNamed := named.isSome,
      zeros := zero.isSome, width := width.getD 0, paddedWidth, groups, places, kind }
  layout.checkGroups usual
  return layout

/-- What fills a field up. -/
def filler (l : Layout) : Char := l.fill.getD (if l.zeros then '0' else ' ')

/-- A text in a field, which is on the given side unless the layout names one. -/
def place (l : Layout) (usual : Alignment) (sign digits : List Char) : List Char :=
  let room := l.width - sign.length - digits.length
  let filled := fun n => List.replicate n l.filler
  match l.alignment.getD usual with
  | .left => sign ++ digits ++ filled room
  | .right => filled room ++ sign ++ digits
  | .centre => filled (room / 2) ++ sign ++ digits ++ filled (room - room / 2)
  | .apart => sign ++ filled room ++ digits

/-- The side that numbers stand on unless the layout names one. -/
def numberSide (l : Layout) : Alignment := l.alignment.getD (if l.zeros then .apart else .right)

/-- The sign of a number. -/
def signOf (l : Layout) (negative : Bool) : List Char :=
  if negative then ['-'] else (l.sign.filter (· ≠ '-')).toList

/-- A kind of text is none of values of a type. -/
def unknownKind {α : Type} (kind : Char) (type : String) : Except Fault α :=
  refuse ("Unknown format code '" ++ kindText kind ++ "' for object of type '" ++ type ++ "'")

/-! ### Texts -/

/-- A text of a type in a layout. -/
def ofText (l : Layout) (type s : String) : Except Fault (List Char) :=
  let refusal := fun what : String => refuse (what ++ " not allowed in string format specifier")
  match l.kind.filter (· ≠ 's') with
  | some kind => unknownKind kind type
  | none =>
    if l.sign = some ' ' then refusal "Space"
    else if l.sign.isSome then refusal "Sign"
    else if l.plainZero then refusal "Negative zero coercion (z)"
    else if l.isNamed then refusal "Alternate form (#)"
    else if l.alignment = some .apart then refusal "'=' alignment"
    else .ok (l.place .left [] (l.places.elim s.toList fun n => s.toList.take n))

/-! ### Numbers -/

/-- The digits of a number in the base that a letter stands for. -/
def digitsBy? (kind : Char) (n : Nat) : Option (List Char) :=
  match kind with
  | 'd' | 'n' => some (Nat.toDigits 10 n)
  | 'x' => some (Nat.toDigits 16 n)
  | 'X' => some ((Nat.toDigits 16 n).map Char.toUpper)
  | 'o' => some (Nat.toDigits 8 n)
  | 'b' => some (Nat.toDigits 2 n)
  | _ => none

/-- A written number in a layout, after the name of a base. -/
def ofNumber (l : Layout) (mark : List Char) (size : Nat) (n : StyledNumber) : List Char :=
  let head := l.signOf n.negative ++ mark
  let side := l.numberSide
  let width := if side = .apart && l.filler = '0' then l.width - head.length - n.rest.length else 0
  let whole := if n.whole.isEmpty then []
    else groupedDigits (l.groups.map (·, size)) width n.whole
  l.place side head (whole ++ n.rest)

/-- An integer of a type as a character. -/
def ofCode (l : Layout) (n : Int) : Except Fault (List Char) :=
  let refusal := fun what : String =>
    refuse (what ++ " not allowed with integer format specifier 'c'")
  if l.sign.isSome then refusal "Sign"
  else if l.isNamed then refusal "Alternate form (#)"
  else if twoPow 63 ≤ n.natAbs then
    .error (.issue .overflow "Python int too large to convert to C long")
  else if n < 0 || 0x110000 ≤ n then .error (.issue .overflow "%c arg not in range(0x110000)")
  else .ok (l.place l.numberSide [] [Char.ofNat n.toNat])

/-- The style that a letter and places stand for. -/
def styleOf (kind : Option Char) (places : Option Nat) : NumberStyle :=
  match kind with
  | none => places.elim .shortest .pointed
  | some kind =>
    let places := places.getD 6
    match kind with
    | 'e' | 'E' => .exponent places
    | 'f' | 'F' | '%' => .fixed places
    | _ => .general places

/-- A float in the style of a layout. -/
def styled (l : Layout) (x : Float) : StyledNumber :=
  let percent := l.kind = some '%'
  let n := styledFloat (styleOf l.kind l.places) l.isNamed (if percent then x * 100.0 else x)
  let rest := if percent then n.rest ++ ['%'] else n.rest
  let rest := if l.kind.any Char.isUpper then rest.map Char.toUpper else rest
  let digits := n.whole ++ n.rest.takeWhile (· ≠ 'e')
  let isZero := x.isFinite && digits.all fun c => c = '0' || c = '.'
  ⟨n.negative && !(l.plainZero && isZero), n.whole, rest⟩

/-- Places that are more than can be counted. -/
def checkPlaces (l : Layout) : Except Fault Unit :=
  if l.places.any (twoPow 31 ≤ ·) then refuse "precision too big" else .ok ()

/-- A float in a layout. -/
def ofFloat (l : Layout) (x : Float) : Except Fault (List Char) :=
  match l.kind.filter fun kind => !"eEfFgGn%".toList.contains kind with
  | some kind => unknownKind kind "float"
  | none => l.checkPlaces.map fun _ => l.ofNumber [] 3 (l.styled x)

/-- An integer of a type in a layout. -/
def ofInteger (l : Layout) (type : String) (n : Int) : Except Fault (List Char) :=
  let kind := l.kind.getD 'd'
  if "eEfFgG%".toList.contains kind then
    (Numeric.floatOfInteger n).bind fun x => l.ofFloat x
  else if !"bcdoxXn".toList.contains kind then unknownKind kind type
  else if l.places.isSome then refuse "Precision not allowed in integer format specifier"
  else if l.plainZero then
    refuse "Negative zero coercion (z) not allowed in integer format specifier"
  else if kind = 'c' then l.ofCode n
  else if (kind = 'd' || kind = 'n') && tenPow Value.maxDigits ≤ n.natAbs then
    .error .tooManyDigits
  else
    match digitsBy? kind n.natAbs with
    | some digits =>
      let mark := if l.isNamed && "boxX".toList.contains kind then ['0', kind] else []
      .ok (l.ofNumber mark (if "boxX".toList.contains kind then 4 else 3) ⟨n < 0, digits, []⟩)
    | none => unknownKind kind type

/-- The end of a number without a point that only zeros follow. -/
def withoutPoint (rest : List Char) : List Char := if rest = ['.', '0'] then [] else rest

/-- A complex number in a layout. -/
def ofComplex (l : Layout) (z : Complex) : Except Fault (List Char) :=
  match l.kind.filter fun kind => !"eEfFgGn".toList.contains kind with
  | some kind => unknownKind kind "complex"
  | none =>
    if l.filler = '0' then
      refuse "Zero padding is not allowed in complex format specifier"
    else if l.alignment = some .apart then
      refuse "'=' alignment flag is not allowed in complex format specifier"
    else
      let part : Layout := { l with width := 0, alignment := none, fill := none }
      let written := fun (l : Layout) (x : Float) =>
        let n := match l.kind, l.places with
          | none, none =>
            let n := styledFloat .shortest false x
            let rest := if n.whole.isEmpty then n.rest
              else keepPoint l.isNamed (withoutPoint n.rest)
            ⟨n.negative, n.whole, rest⟩
          | none, some places => { l with kind := some 'g', places := some places }.styled x
          | _, _ => l.styled x
        l.ofNumber [] 3 n
      let skipsReal := l.kind.isNone && z.re == 0.0 && Complex.isUnsigned z.re
      let real := if skipsReal then [] else written part z.re
      let imaginary := written (if skipsReal then part else { part with sign := some '+' }) z.im
      let body := real ++ imaginary ++ ['j']
      let shown := if l.kind.isNone && !skipsReal then '(' :: body ++ [')'] else body
      l.checkPlaces.map fun _ => l.place .right [] shown

/-! ### Decimals -/

/-- The layout that a text writes for decimals. -/
def readForDecimal (text : String) : Except Fault Layout :=
  match read "Decimal" 'g' text with
  | .error _ => refuse "invalid format string"
  | .ok l =>
    let unknown := l.kind.any fun kind => !"eEfFgGn%".toList.contains kind
    if unknown || l.groups = some '_' || (l.zeros && l.alignment.isSome) || l.paddedWidth ||
        (l.kind = some 'n' && l.groups.isSome) then
      refuse "invalid format string"
    else .ok l

/-- A coefficient and an exponent rounded to so many digits. -/
def toDigits (count coefficient : Nat) (exponent : Int) : Nat × Int :=
  let length := Decimal.lengthOf coefficient
  if length ≤ count then (coefficient, exponent)
  else
    let kept := Decimal.withoutDigits coefficient (length - count)
    let power := exponent + (length - count : Nat)
    if Decimal.lengthOf kept > count then (kept / 10, power + 1) else (kept, power)

/-- A coefficient and an exponent rounded as a kind of text asks for it. -/
def roundedFor (kind : Char) (places : Option Nat) (coefficient : Nat) (exponent : Int) :
    Nat × Int :=
  match places with
  | some places =>
    if kind = 'e' && coefficient ≠ 0 then
      let (c, e) := toDigits (places + 1) coefficient exponent
      let room := places + 1 - Decimal.lengthOf c
      (c * tenPow room, e - room)
    else if kind = 'e' then (0, exponent)
    else if kind = 'f' then
      (Decimal.Rounding.halfEven.rescaled false coefficient exponent (-places), -places)
    else if coefficient = 0 then (0, exponent)
    else toDigits (max 1 places) coefficient exponent
  | none => if kind = 'f' && 0 < exponent && coefficient = 0 then (0, 0) else (coefficient, exponent)

/-- A decimal in the style of a layout. -/
def styledDecimal (l : Layout) (negative : Bool) (coefficient : Nat) (exponent : Int) :
    StyledNumber :=
  let letter := l.kind.getD 'G'
  let percent := letter = '%'
  let kind := if percent then 'f' else if letter = 'n' then 'g' else letter.toLower
  let (c, e) := roundedFor kind l.places coefficient (if percent then exponent + 2 else exponent)
  let digits := Nat.toDigits 10 c
  let left := e + digits.length
  let dot : Int :=
    if kind = 'e' then (if c = 0 then l.places.elim 1 fun n => 1 - (n : Int) else 1)
    else if kind = 'f' then left
    else if e ≤ 0 && -6 < left then left
    else 1
  let (whole, places) :=
    if dot < 0 then (['0'], List.replicate (-dot).toNat '0' ++ digits)
    else if (digits.length : Int) < dot then
      (digits ++ List.replicate (dot - digits.length).toNat '0', [])
    else (if dot = 0 then ['0'] else digits.take dot.toNat, digits.drop dot.toNat)
  let power := left - dot
  let mark := if letter.isUpper then 'E' else 'e'
  let ending := if power = 0 && kind ≠ 'e' then []
    else mark :: (if power < 0 then '-' else '+') :: Nat.toDigits 10 power.natAbs
  ⟨negative && !(l.plainZero && c = 0), whole,
    afterPoint l.isNamed places ++ ending ++ (if percent then ['%'] else [])⟩

/-- A decimal in a layout. -/
def ofDecimal (l : Layout) (d : Decimal) : List Char :=
  match d with
  | .finite negative coefficient exponent =>
    l.ofNumber [] 3 (l.styledDecimal negative coefficient exponent)
  | special =>
    let shown := (special.withSign false).text.toList
    let percent := if l.kind = some '%' then ['%'] else []
    let plain := if l.zeros then { l with zeros := false } else l
    plain.place .right (l.signOf special.isNegative) (shown ++ percent)

end Layout

namespace Value

/-- A value of a type takes no layout. -/
def takesNoLayout {α : Type} (type : String) : Except Fault α :=
  .error (.issue .type ("unsupported format string passed to " ++ type ++ ".__format__"))

/-- A value in the layout that a text writes. -/
def layOut (layout : String) (v : Value) : Except Fault String :=
  let laidOut := fun (type : String) (write : Layout → Except Fault (List Char)) =>
    ((Layout.read type (if v.textual?.isSome then 's' else 'd') layout).bind write).map
      String.ofList
  let pattern := fun d : DateTime => .ok (String.ofList (Calendar.written d layout.toList))
  if layout.isEmpty then v.display
  else
    match v with
    | text s => laidOut "str" (·.ofText "str" s)
    | textMember _ s => laidOut v.typeName (·.ofText v.typeName s)
    | member label _ =>
      ((Layout.read "str" 's' layout).bind (·.ofText "str" label)).map String.ofList
    | bool b => laidOut "bool" (·.ofInteger "bool" (if b then 1 else 0))
    | int n => laidOut "int" (·.ofInteger "int" n)
    | intMember _ n => laidOut v.typeName (·.ofInteger v.typeName n)
    | float x => laidOut "float" (·.ofFloat x)
    | complex z => laidOut "complex" (·.ofComplex z)
    | decimal d => ((Layout.readForDecimal layout).map (·.ofDecimal d)).map String.ofList
    | date d => pattern ⟨d, ⟨0, 0, 0, 0⟩⟩
    | dateTime d => pattern d
    | time t => pattern ⟨Calendar.clockDay, t⟩
    | ratio _ => takesNoLayout "Fraction"
    | other => takesNoLayout other.typePath

end Value

end SheetExport
