/-
**Dates and times written by a pattern.**

In a pattern, a letter after a percent sign stands for a field of a date and time, and all else for
itself. The names of days and months are English, and the clock is that of the universal time.
-/

import SheetExport.Calendar.Duration

namespace SheetExport.Calendar

/-- The names of the days of a week. -/
def dayNames : List String :=
  ["Monday", "Tuesday", "Wednesday", "Thursday", "Friday", "Saturday", "Sunday"]

/-- The names of the months. -/
def monthNames : List String := ["January", "February", "March", "April", "May", "June", "July",
  "August", "September", "October", "November", "December"]

/-- The first three letters of a name. -/
def shortName (name : String) : String := String.ofList (name.toList.take 3)

/-- A number in two places with a space in front if it is less than ten. -/
def spaced (n : Nat) : String := (if n < 10 then " " else "") ++ toString n

/-- The seconds since the beginning of 1970. -/
def epochSeconds (d : DateTime) : Int :=
  (d.microseconds - (daysBeforeYear 1970 + 1 : Nat) * Duration.units.2).fdiv Duration.units.1

/-- The week of a day in its year, where weeks begin with a weekday, Sunday being zero. -/
def weekOfYear (d : Date) (start : Nat) : Nat :=
  let weekday := (d.weekday + 1 + 7 - start) % 7
  (d.dayOfYear + 6 - weekday) / 7

/-- Date and time of day as a line of a log has them. -/
def lineText (d : DateTime) : String :=
  shortName (dayNames.getD d.date.weekday "") ++ " " ++
    shortName (monthNames.getD (d.date.month - 1) "") ++ " " ++ spaced d.date.day ++ " " ++
    TimeOfDay.text { d.time with microsecond := 0 } ++ " " ++ toString d.date.year

/-- What a letter of a pattern stands for. -/
def field? (d : DateTime) (letter : Char) : Option String :=
  let (date, time) := (d.date, d.time)
  let day := dayNames.getD date.weekday ""
  let month := monthNames.getD (date.month - 1) ""
  let hour := if time.hour % 12 = 0 then 12 else time.hour % 12
  let clock := TimeOfDay.text { time with microsecond := 0 }
  let half := if time.hour < 12 then "AM" else "PM"
  let numbers := padded 2 date.month ++ "/" ++ padded 2 date.day ++ "/" ++
    padded 2 (date.year % 100)
  let (isoYear, week, isoDay) := date.isoWeek
  match letter with
  | 'a' => some (shortName day)
  | 'A' => some day
  | 'b' | 'h' => some (shortName month)
  | 'B' => some month
  | 'c' => some (lineText d)
  | 'C' => some (padded 2 (date.year / 100))
  | 'd' => some (padded 2 date.day)
  | 'D' | 'x' => some numbers
  | 'e' => some (spaced date.day)
  | 'f' => some (padded 6 time.microsecond)
  | 'F' => some (toString date.year ++ "-" ++ padded 2 date.month ++ "-" ++ padded 2 date.day)
  | 'g' => some (padded 2 (isoYear % 100))
  | 'G' => some (toString isoYear)
  | 'H' => some (padded 2 time.hour)
  | 'I' => some (padded 2 hour)
  | 'j' => some (padded 3 date.dayOfYear)
  | 'k' => some (spaced time.hour)
  | 'l' => some (spaced hour)
  | 'm' => some (padded 2 date.month)
  | 'M' => some (padded 2 time.minute)
  | 'n' => some "\n"
  | 'p' => some half
  | 'P' => some (half.map Char.toLower)
  | 'r' => some (padded 2 hour ++ ":" ++ padded 2 time.minute ++ ":" ++ padded 2 time.second ++
      " " ++ half)
  | 'R' => some (padded 2 time.hour ++ ":" ++ padded 2 time.minute)
  | 's' => some (toString (epochSeconds d))
  | 'S' => some (padded 2 time.second)
  | 't' => some "\t"
  | 'T' | 'X' => some clock
  | 'u' => some (toString isoDay)
  | 'U' => some (padded 2 (weekOfYear date 0))
  | 'V' => some (padded 2 week)
  | 'w' => some (toString (isoDay % 7))
  | 'W' => some (padded 2 (weekOfYear date 1))
  | 'y' => some (padded 2 (date.year % 100))
  | 'Y' => some (toString date.year)
  | 'z' | 'Z' => some ""
  | '%' => some "%"
  | _ => none

/-- A date and time written by a pattern. -/
def written (d : DateTime) : List Char → List Char
  | '%' :: letter :: rest =>
    ((field? d letter).elim ['%', letter] String.toList) ++ written d rest
  | c :: rest => c :: written d rest
  | [] => []

/-- The day that times of day are written with. -/
def clockDay : Date := ⟨1900, 1, 1⟩

end SheetExport.Calendar
