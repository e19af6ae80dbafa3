/-
**Durations.**

A duration is a number of microseconds, at most 999999999 days of them in either direction
(`Duration.check`). Its text gives the days, and the time of a day for the rest. Durations are added
to dates (`Date.shifted`, `DateTime.shifted`), and are what lies between two of them.
-/

import SheetExport.Calendar.Day
import SheetExport.Number.Exact

namespace SheetExport

/-- A duration, in microseconds. -/
structure Duration where
  microseconds : Int
deriving Repr, DecidableEq

namespace Duration

/-- How many microseconds a second and a day have. -/
def units : Int × Int := (1000000, 86400 * 1000000)

/-- The most days of a duration. -/
def mostDays : Int := 999999999

/-- The whole days, and the seconds and the microseconds of the rest. -/
def fields (d : Duration) : Int × Int × Int :=
  let (second, day) := units
  let rest := d.microseconds.fmod day
  (d.microseconds.fdiv day, rest / second, rest % second)

/-- A duration of microseconds, unless there are too many of them. -/
def check (microseconds : Int) : Except CalendarFault Duration :=
  let days := (Duration.mk microseconds).fields.1
  if days.natAbs ≤ mostDays then .ok ⟨microseconds⟩ else .error (.beyondDurations days)

/-- The least and the greatest duration. -/
def bounds : Duration × Duration :=
  let (_, day) := units
  (⟨-mostDays * day⟩, ⟨(mostDays + 1) * day - 1⟩)

/-- The text of a duration. -/
def text (d : Duration) : String :=
  let (days, seconds, microseconds) := d.fields
  let counted := toString days ++ (if days.natAbs = 1 then " day, " else " days, ")
  let clock := toString (seconds / 3600) ++ ":" ++ padded 2 (seconds / 60 % 60).toNat ++ ":" ++
    padded 2 (seconds % 60).toNat
  let fraction := if microseconds = 0 then "" else "." ++ padded 6 microseconds.toNat
  (if days = 0 then "" else counted) ++ clock ++ fraction

/-- The fields of a duration that are not zero, by their names. -/
def namedFields (d : Duration) : List (String × Int) :=
  let (days, seconds, microseconds) := d.fields
  [("days", days), ("seconds", seconds), ("microseconds", microseconds)].filter (·.2 ≠ 0)

/-- A fraction rounded to the nearest integer, a tie going to the even one. -/
def nearest (q : Rat) : Int :=
  let magnitude : Int := roundQuotient q.num.natAbs q.den
  if q.num < 0 then -magnitude else magnitude

/-- The duration of so many microseconds, rounded. -/
def ofRat (microseconds : Rat) : Except CalendarFault Duration := check (nearest microseconds)

end Duration

/-! ### Dates -/

/-- The date so many days later. -/
def Date.shifted (d : Date) (days : Int) : Except CalendarFault Date :=
  match Date.ofOrdinal? (d.ordinal + days) with
  | some later => .ok later
  | none => .error .beyondDates

/-- The microseconds of a time of day, since midnight. -/
def TimeOfDay.microseconds (t : TimeOfDay) : Nat :=
  ((t.hour * 60 + t.minute) * 60 + t.second) * 1000000 + t.microsecond

/-- The time of day so many microseconds after midnight. -/
def TimeOfDay.ofMicroseconds (n : Nat) : TimeOfDay :=
  let seconds := n / 1000000
  ⟨seconds / 3600, seconds / 60 % 60, seconds % 60, n % 1000000⟩

/-- The microseconds since the beginning of the first day. -/
def DateTime.microseconds (d : DateTime) : Int :=
  (d.date.ordinal : Int) * Duration.units.2 + d.time.microseconds

/-- The date and time of day of so many microseconds since the beginning of the first day. -/
def DateTime.ofMicroseconds? (n : Int) : Option DateTime :=
  let (_, day) := Duration.units
  (Date.ofOrdinal? (n.fdiv day)).map fun date =>
    ⟨date, .ofMicroseconds (n.fmod day).toNat⟩

/-- The date and time of day a duration later. -/
def DateTime.shifted (d : DateTime) (by_ : Duration) : Except CalendarFault DateTime :=
  match DateTime.ofMicroseconds? (d.microseconds + by_.microseconds) with
  | some later => .ok later
  | none => .error .beyondDates

end SheetExport
