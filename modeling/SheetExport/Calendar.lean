/-
**Dates and times of day.**

The temporal values a record can hold and a cell can show, without time zone. Their texts are the
ISO ones, with microseconds in six digits where there are any.
-/

import SheetExport.Text.Ranges

namespace SheetExport

/-- A calendar date. -/
structure Date where
  year : Nat
  month : Nat
  day : Nat
deriving Repr, DecidableEq

/-- A time of day, to the microsecond. -/
structure TimeOfDay where
  hour : Nat
  minute : Nat
  second : Nat
  microsecond : Nat
deriving Repr, DecidableEq

/-- A date with a time of day. -/
structure DateTime where
  date : Date
  time : TimeOfDay
deriving Repr, DecidableEq

/-- A number in at least `width` digits, with zeros in front. -/
def padded (width n : Nat) : String :=
  let digits := Nat.toDigits 10 n
  String.ofList (List.replicate (width - digits.length) '0' ++ digits)

/-- Year, month and day. -/
def Date.text (d : Date) : String :=
  padded 4 d.year ++ "-" ++ padded 2 d.month ++ "-" ++ padded 2 d.day

/-- Hour, minute, second, and microseconds unless there are none. -/
def TimeOfDay.text (t : TimeOfDay) : String :=
  padded 2 t.hour ++ ":" ++ padded 2 t.minute ++ ":" ++ padded 2 t.second ++
    (if t.microsecond = 0 then "" else "." ++ padded 6 t.microsecond)

/-- Date and time with the given text between them. -/
def DateTime.text (separator : String) (d : DateTime) : String :=
  d.date.text ++ separator ++ d.time.text

/-- A number in exactly `width` digits at the front of a text, and what follows it. -/
def readDigits? (width : Nat) (cs : List Char) : Option (Nat × List Char) :=
  let digits := cs.take width
  if digits.length = width && digits.all Char.isDigit then
    some (Text.digitsValue digits, cs.drop width)
  else none

/-- A decimal fraction of a second in microseconds; what is less than one is left out. -/
def readMicroseconds? (cs : List Char) : Option Nat :=
  if !cs.isEmpty && cs.all Char.isDigit then
    some (Text.digitsValue ((cs ++ List.replicate (6 - cs.length) '0').take 6))
  else none

/-- Month and day at the front of a text, with a hyphen between them or not. -/
def readMonthDay? (separated : Bool) (cs : List Char) : Option (Nat × Nat × List Char) := do
  let (month, rest) ← readDigits? 2 cs
  let rest ← if separated then (match rest with
    | '-' :: rest => some rest
    | _ => none) else some rest
  let (day, rest) ← readDigits? 2 rest
  return (month, day, rest)

/-- A date at the front of a text, with hyphens or without, and what follows it. -/
def Date.read? (cs : List Char) : Option (Date × List Char) := do
  let (year, rest) ← readDigits? 4 cs
  let (month, day, rest) ← match rest with
    | '-' :: rest => readMonthDay? true rest
    | _ => readMonthDay? false rest
  return (⟨year, month, day⟩, rest)

/-- Reads a date. -/
def Date.ofText? (s : String) : Option Date :=
  match Date.read? s.toList with
  | some (d, []) => some d
  | _ => none

/-- Reads up to `more` further numbers of a time of day, with colons or without, and the fraction
of a second that may follow any of them. -/
def readClock? (separated : Bool) (known : List Nat) : Nat → List Char → Option (List Nat × Nat)
  | _, [] => some (known, 0)
  | more, c :: rest =>
    if c = '.' || c = ',' then (readMicroseconds? rest).map (known, ·)
    else
      match more with
      | 0 => none
      | more + 1 =>
        if separated && c ≠ ':' then none
        else
          match readDigits? 2 (if separated then rest else c :: rest) with
          | some (n, rest) => readClock? separated (known ++ [n]) more rest
          | none => none

/-- Reads hour, and as far as they are there, minute, second and a decimal fraction. -/
def TimeOfDay.read? (cs : List Char) : Option TimeOfDay := do
  let (hour, rest) ← readDigits? 2 cs
  let (fields, microsecond) ← readClock? (rest.head? == some ':') [] 2 rest
  return ⟨hour, fields.getD 0 0, fields.getD 1 0, microsecond⟩

/-- Reads a time of day, which may begin with a `T`. -/
def TimeOfDay.ofText? (s : String) : Option TimeOfDay :=
  match s.toList with
  | 'T' :: cs => TimeOfDay.read? cs
  | cs => TimeOfDay.read? cs

/-- Reads a date and, after one character, a time of day; without a time it is midnight. -/
def DateTime.ofText? (s : String) : Option DateTime := do
  let (date, rest) ← Date.read? s.toList
  let time ← match rest with
    | [] => some ⟨0, 0, 0, 0⟩
    | _ :: cs => TimeOfDay.read? cs
  return ⟨date, time⟩

end SheetExport
