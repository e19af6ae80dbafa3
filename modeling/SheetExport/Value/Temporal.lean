/-
**Sums and order of temporal values.**

A duration is added to a date, to a date with a time, or to another duration; it is what lies between
two of a kind, and it is multiplied and divided by numbers (`Value.operateTemporal?`). Dates, times
and durations are ordered among their own kind (`Value.compareTemporal?`).
-/

import SheetExport.Value.Numeric

namespace SheetExport

/-- What goes wrong with a calendar is a fault. -/
def Fault.ofCalendar (f : CalendarFault) : Fault :=
  .issue (if f.isOverflow then .overflow else .value) f.text

namespace Value

/-- A duration of so many microseconds. -/
def durationOf (microseconds : Int) : Except Fault Value :=
  ((Duration.check microseconds).mapError Fault.ofCalendar).map duration

/-- A duration of a fraction of microseconds, rounded. -/
def nearestDuration (microseconds : Rat) : Except Fault Value :=
  ((Duration.ofRat microseconds).mapError Fault.ofCalendar).map duration

/-- A date later by the whole days of a duration. -/
def laterDate (d : Date) (days : Int) : Except Fault Value :=
  ((d.shifted days).mapError Fault.ofCalendar).map date

/-- A date and time later by a duration. -/
def laterDateTime (d : DateTime) (by_ : Duration) : Except Fault Value :=
  ((d.shifted by_).mapError Fault.ofCalendar).map dateTime

/-- The exact value of a float as a factor. -/
def factorOf (x : Float) : Except Fault Rat :=
  match exactValue? x with
  | some q => .ok q
  | none =>
    if x.isNaN then .error (.issue .value "cannot convert NaN to integer ratio")
    else .error (.issue .overflow "cannot convert Infinity to integer ratio")

/-- A division by nothing. -/
def noQuotient : Except Fault Value := Numeric.noDivision "integer division or modulo by zero"

/-- What an operator makes of a duration and a number. -/
def scaleDuration? (operator : String) (d : Duration) (n : Numeric) :
    Option (Except Fault Value) :=
  let m := d.microseconds
  match operator, n with
  | "*", .whole k => some (durationOf (m * k))
  | "*", .float x => some ((factorOf x).bind fun q => nearestDuration (m * q))
  | "/", .whole k => some (if k = 0 then noQuotient else nearestDuration (m / k))
  | "/", .float x =>
    some ((factorOf x).bind fun q => if q = 0 then noQuotient else nearestDuration (m / q))
  | "//", .whole k => some (if k = 0 then noQuotient else durationOf (m.fdiv k))
  | _, _ => none

/-- What an operator makes of two durations. -/
def operateDurations? (operator : String) (d e : Duration) : Option (Except Fault Value) :=
  let (m, n) := (d.microseconds, e.microseconds)
  match operator with
  | "+" => some (durationOf (m + n))
  | "-" => some (durationOf (m - n))
  | "/" =>
    some (if n = 0 then Numeric.noDivision "division by zero"
      else (Numeric.floatOfRatio (m / n)).map float)
  | "//" => some (if n = 0 then noQuotient else .ok (int (m.fdiv n)))
  | "%" =>
    some (if n = 0 then Numeric.noDivision "integer modulo by zero" else durationOf (m.fmod n))
  | _ => none

/-- What an operator makes of two values of which one is temporal, if it makes anything of them. -/
def operateTemporal? (operator : String) (a b : Value) : Option (Except Fault Value) :=
  match a, b, operator with
  | duration d, duration e, _ => operateDurations? operator d e
  | date d, duration e, "+" | duration e, date d, "+" => some (laterDate d e.fields.1)
  | date d, duration e, "-" => some (laterDate d (-e.fields.1))
  | dateTime d, duration e, "+" | duration e, dateTime d, "+" => some (laterDateTime d e)
  | dateTime d, duration e, "-" => some (laterDateTime d ⟨-e.microseconds⟩)
  | date d, date e, "-" =>
    some (durationOf (((d.ordinal : Int) - e.ordinal) * Duration.units.2))
  | dateTime d, dateTime e, "-" => some (durationOf (d.microseconds - e.microseconds))
  | duration d, other, _ => (Numeric.ofValue? other).bind (scaleDuration? operator d)
  | other, duration d, "*" => (Numeric.ofValue? other).bind (scaleDuration? operator d)
  | _, _, _ => none

/-- The order of two temporal values of one kind. -/
def compareTemporal? (a b : Value) : Option Ordering :=
  match a, b with
  | date d, date e => some (compare d.ordinal e.ordinal)
  | dateTime d, dateTime e => some (compare d.microseconds e.microseconds)
  | time t, time u => some (compare t.microseconds u.microseconds)
  | duration d, duration e => some (compare d.microseconds e.microseconds)
  | _, _ => none

/-- A date and a date with a time, which have no order. -/
def areMixedDates (a b : Value) : Bool :=
  match a, b with
  | date _, dateTime _ | dateTime _, date _ => true
  | _, _ => false

end Value

end SheetExport
