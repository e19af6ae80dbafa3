/-
**Days, counted.**

A date is a day of a month of a year between 1 and 9999, or the day of a number that counts from the
first one on (`Date.ordinal`, `Date.ofOrdinal?`), or a weekday of a week of a year, where the first
week is the one with the first Thursday (`Date.isoWeek`, `Date.ofIsoWeek`). `Date.check` and
`TimeOfDay.check` say what is wrong with fields that are no date or no time.
-/

import SheetExport.Calendar

namespace SheetExport

/-! ### Faults -/

/-- Why fields make no date, no time and no duration. -/
inductive CalendarFault
  | year (n : Int)
  | month | day | hour | minute | second | microsecond | fold
  | isoYear (n : Int)
  | week (n : Int)
  | weekday (n : Int)
  | ordinal
  /-- A date before the first one or after the last one. -/
  | beyondDates
  /-- A duration of too many days. -/
  | beyondDurations (days : Int)
deriving Repr, DecidableEq

/-- The wording of a fault. -/
def CalendarFault.text : CalendarFault → String
  | year n => "year " ++ toString n ++ " is out of range"
  | month => "month must be in 1..12"
  | day => "day is out of range for month"
  | hour => "hour must be in 0..23"
  | minute => "minute must be in 0..59"
  | second => "second must be in 0..59"
  | microsecond => "microsecond must be in 0..999999"
  | fold => "fold must be either 0 or 1"
  | isoYear n => "Year is out of range: " ++ toString n
  | week n => "Invalid week: " ++ toString n
  | weekday n => "Invalid day: " ++ toString n ++ " (range is [1, 7])"
  | ordinal => "ordinal must be >= 1"
  | beyondDates => "date value out of range"
  | beyondDurations days =>
    "days=" ++ toString days ++ "; must have magnitude <= 999999999"

/-- A fault of a value that is too great, and not of one that is no value at all. -/
def CalendarFault.isOverflow : CalendarFault → Bool
  | beyondDates | beyondDurations _ => true
  | _ => false

/-! ### Years and months -/

/-- The last year of the calendar. -/
def lastYear : Nat := 9999

/-- A year with a day more than others. -/
def isLeapYear (year : Nat) : Bool := year % 4 = 0 && (year % 100 ≠ 0 || year % 400 = 0)

/-- How many days a month of a year has. -/
def daysInMonth (year month : Nat) : Nat :=
  if month = 2 then (if isLeapYear year then 29 else 28)
  else if [4, 6, 9, 11].contains month then 30
  else 31

/-- How many days lie before a year. -/
def daysBeforeYear (year : Nat) : Nat :=
  let n := year - 1
  n * 365 + n / 4 - n / 100 + n / 400

/-- How many days of a year lie before a month. -/
def daysBeforeMonth (year month : Nat) : Nat :=
  (List.range (month - 1)).foldl (fun days m => days + daysInMonth year (m + 1)) 0

/-- What is wrong with the fields of a date. -/
def Date.check (year month day : Int) : Except CalendarFault Date :=
  if year < 1 ∨ lastYear < year then .error (.year year)
  else if month < 1 ∨ 12 < month then .error .month
  else if day < 1 ∨ daysInMonth year.toNat month.toNat < day then .error .day
  else .ok ⟨year.toNat, month.toNat, day.toNat⟩

/-- What is wrong with the fields of a time of day. -/
def TimeOfDay.check (hour minute second microsecond : Int) : Except CalendarFault TimeOfDay :=
  if hour < 0 ∨ 23 < hour then .error .hour
  else if minute < 0 ∨ 59 < minute then .error .minute
  else if second < 0 ∨ 59 < second then .error .second
  else if microsecond < 0 ∨ 999999 < microsecond then .error .microsecond
  else .ok ⟨hour.toNat, minute.toNat, second.toNat, microsecond.toNat⟩

/-! ### Numbers of days -/

/-- The number of a day in its year. -/
def Date.dayOfYear (d : Date) : Nat := daysBeforeMonth d.year d.month + d.day

/-- The number of a day, counted from the first one on. -/
def Date.ordinal (d : Date) : Nat := daysBeforeYear d.year + d.dayOfYear

/-- The year of the day of a number: the last one before which fewer days lie. -/
def yearOfOrdinal (n : Nat) : Nat :=
  let guess := n / 366 + 1
  let later := (List.range (n / 366 / 400 + 4)).map fun more => guess + more
  (later.reverse.find? fun year => daysBeforeYear year < n).getD 1

/-- The month and the day of a number in a year. -/
def monthOfDay (year : Nat) : Nat → Nat → Nat → Nat × Nat
  | 0, month, day => (month, day)
  | months + 1, month, day =>
    let length := daysInMonth year month
    if day ≤ length then (month, day) else monthOfDay year months (month + 1) (day - length)

/-- The date of the day of a number. -/
def Date.ofOrdinal? (n : Int) : Option Date :=
  if n < 1 ∨ daysBeforeYear (lastYear + 1) < n then none
  else
    let year := yearOfOrdinal n.toNat
    let (month, day) := monthOfDay year 12 1 (n.toNat - daysBeforeYear year)
    some ⟨year, month, day⟩

/-! ### Weeks -/

/-- The weekday of a date, Monday being zero. -/
def Date.weekday (d : Date) : Nat := (d.ordinal + 6) % 7

/-- The number of the Monday that the first week of a year begins with. -/
def firstMonday (year : Nat) : Int :=
  let first : Int := daysBeforeYear year + 1
  let weekday := (first + 6) % 7
  if 3 < weekday then first - weekday + 7 else first - weekday

/-- The year, the week and the weekday of a date, Monday being one. -/
def Date.isoWeek (d : Date) : Nat × Nat × Nat :=
  let day : Int := d.ordinal
  let year := if firstMonday (d.year + 1) ≤ day then d.year + 1
    else if day < firstMonday d.year then d.year - 1
    else d.year
  (year, ((day - firstMonday year) / 7).toNat + 1, d.weekday + 1)

/-- How many weeks a year has. -/
def weeksInYear (year : Nat) : Nat := ((firstMonday (year + 1) - firstMonday year) / 7).toNat

/-- The date of a weekday of a week of a year. -/
def Date.ofIsoWeek (year week weekday : Int) : Except CalendarFault Date :=
  if year < 1 ∨ lastYear < year then .error (.isoYear year)
  else if week < 1 ∨ weeksInYear year.toNat < week then .error (.week week)
  else if weekday < 1 ∨ 7 < weekday then .error (.weekday weekday)
  else
    match Date.ofOrdinal? (firstMonday year.toNat + (week - 1) * 7 + weekday - 1) with
    | some d => .ok d
    | none => .error (.isoYear year)

/-- A year and a week at the front of a text, with hyphens or without, and perhaps a weekday. -/
def readIsoWeek? (cs : List Char) : Option (Nat × Nat × Nat × List Char) := do
  let (year, rest) ← readDigits? 4 cs
  let (separated, rest) ← match rest with
    | '-' :: 'W' :: rest => some (true, rest)
    | 'W' :: rest => some (false, rest)
    | _ => none
  let (week, rest) ← readDigits? 2 rest
  match separated, rest with
  | true, '-' :: rest => (readDigits? 1 rest).map fun (day, rest) => (year, week, day, rest)
  | false, c :: rest =>
    if c.isDigit then (readDigits? 1 (c :: rest)).map fun (day, rest) => (year, week, day, rest)
    else some (year, week, 1, c :: rest)
  | _, rest => some (year, week, 1, rest)

/-- Reads a date by the fields or by the week; nothing if the text has the form of neither. -/
def Date.read (s : String) : Option (Except CalendarFault Date) :=
  match Date.ofText? s, readIsoWeek? s.toList with
  | some d, _ => some (Date.check d.year d.month d.day)
  | none, some (year, week, day, []) => (Date.ofIsoWeek year week day).toOption.map .ok
  | none, _ => none

/-- Reads a time of day; nothing if the text has not its form. -/
def TimeOfDay.read (s : String) : Option (Except CalendarFault TimeOfDay) :=
  (TimeOfDay.ofText? s).map fun t => TimeOfDay.check t.hour t.minute t.second t.microsecond

/-- Reads a date and, after one character, a time of day; nothing if the text has not their form. -/
def DateTime.read (s : String) : Option (Except CalendarFault DateTime) := do
  let (date, rest) ← match Date.read? s.toList, readIsoWeek? s.toList with
    | some (d, rest), _ => some (Date.check d.year d.month d.day, rest)
    | none, some (year, week, day, rest) =>
      (Date.ofIsoWeek year week day).toOption.map fun d => (.ok d, rest)
    | none, none => none
  let time ← match rest with
    | [] => some ⟨0, 0, 0, 0⟩
    | _ :: cs => TimeOfDay.read? cs
  return date.bind fun d =>
    (TimeOfDay.check time.hour time.minute time.second time.microsecond).map fun t => ⟨d, t⟩

end SheetExport
