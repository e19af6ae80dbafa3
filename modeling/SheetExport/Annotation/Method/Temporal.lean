/-
**Functions of dates, times and durations.**

A temporal value is written in several forms and made anew with other fields; a date has a number
and a place in a week. Its class makes one of a text, of the number of a day, or of the seconds
since the beginning of 1970, by the clock of the universal time. What time it is cannot be asked.
-/

import SheetExport.Annotation.Making.Temporal
import SheetExport.Calendar.Recognition

namespace SheetExport.Annotation

/-! ### Parts -/

/-- The fields of a date as meanings. -/
def dateFields (d : Date) : List Meaning := [.natural d.year, .natural d.month, .natural d.day]

/-- The fields of a time of day as meanings, without a time zone. -/
def timeFieldsOf (t : TimeOfDay) : List Meaning :=
  [.natural t.hour, .natural t.minute, .natural t.second, .natural t.microsecond, .absent,
    .natural 0]

/-- A date in its week. -/
def weekOf (d : Date) : Meaning :=
  let (year, week, weekday) := d.isoWeek
  .labelled "datetime.IsoCalendarDate" ["year", "week", "weekday"]
    [.natural year, .natural week, .natural weekday]

/-- A date and time by the fields of a clock. -/
def clockOf (d : DateTime) (isSummer : Int) : Meaning :=
  .labelled "time.struct_time"
    ["tm_year", "tm_mon", "tm_mday", "tm_hour", "tm_min", "tm_sec", "tm_wday", "tm_yday",
      "tm_isdst"]
    (dateFields d.date ++ [.natural d.time.hour, .natural d.time.minute, .natural d.time.second,
      .natural d.date.weekday, .natural d.date.dayOfYear, .integer isSummer])

/-- The fields of an old value, with those that are given in place of them. -/
def replaced (old : List Meaning) (given : List (Option Meaning)) : List (Option Meaning) :=
  (old.zip given).map fun (before, now) => some (now.getD before)

/-- A date with other fields. -/
def replaceDate (d : Date) (given : List (Option Meaning)) : Result Date :=
  ((replaced (dateFields d) given).mapM (fieldOr 0)).bind fun fields =>
    match fields with
    | [year, month, day] => ofCalendar (Date.check year month day)
    | _ => .ok d

/-- A time of day with other fields. -/
def replaceTime (t : TimeOfDay) (given : List (Option Meaning)) : Result TimeOfDay :=
  timeOfFields (replaced (timeFieldsOf t) given)

/-! ### Texts -/

/-- The text that an argument is, or a refusal that names its place. -/
def textAt (title : String) (place : Nat) (m : Option Meaning) : Result String :=
  match m.bind Meaning.text?, m with
  | some s, _ => .ok s
  | none, m =>
    refuse (title ++ "() argument " ++ toString place ++ " must be str, not " ++
      (m.map Meaning.typeName).getD "")

/-- A date and time written by the pattern of an argument. -/
def writtenBy (d : DateTime) (pattern : Option Meaning) : Result Meaning :=
  (textAt "strftime" 1 pattern).map fun s => .ofChars (Calendar.written d s.toList)

/-- How exactly a time of day is written. -/
def clockText (t : TimeOfDay) (exactness : String) : Result String :=
  let minutes := padded 2 t.hour ++ ":" ++ padded 2 t.minute
  let seconds := minutes ++ ":" ++ padded 2 t.second
  match exactness with
  | "auto" => .ok t.text
  | "hours" => .ok (padded 2 t.hour)
  | "minutes" => .ok minutes
  | "seconds" => .ok seconds
  | "milliseconds" => .ok (seconds ++ "." ++ padded 3 (t.microsecond / 1000))
  | "microseconds" => .ok (seconds ++ "." ++ padded 6 t.microsecond)
  | _ => .error (.invalid "Unknown timespec value")

/-- The exactness that an argument names. -/
def exactnessOf (place : Nat) (m : Option Meaning) : Result String :=
  if m.isNone then .ok "auto" else textAt "isoformat" place m

/-- The character between date and time that an argument gives. -/
def separatorOf (m : Option Meaning) : Result String :=
  match m, m.bind Meaning.text? with
  | none, _ => .ok "T"
  | some m, some s =>
    if s.length = 1 then .ok s
    else
      refuse ("isoformat() argument 1 must be a unicode character, not " ++ m.typeName)
  | some m, none =>
    refuse ("isoformat() argument 1 must be a unicode character, not " ++ m.typeName)

/-! ### Functions of values -/

/-- The result of a function of a date. -/
def callDate? (d : Date) (name : String) (found : List (Option Meaning)) :
    Option (Result Meaning) :=
  let atMidnight : DateTime := ⟨d, ⟨0, 0, 0, 0⟩⟩
  match name with
  | "ctime" => some (.ok (.text (Calendar.lineText atMidnight)))
  | "isocalendar" => some (.ok (weekOf d))
  | "isoformat" => some (.ok (.text d.text))
  | "isoweekday" => some (.ok (.natural (d.weekday + 1)))
  | "weekday" => some (.ok (.natural d.weekday))
  | "toordinal" => some (.ok (.natural d.ordinal))
  | "timetuple" => some (.ok (clockOf atMidnight (-1)))
  | "strftime" => some (writtenBy atMidnight found.head?.join)
  | "replace" => some ((replaceDate d found).map fun d => .value (.date d))
  | _ => none

/-- The result of a function of a time of day. -/
def callTime? (t : TimeOfDay) (name : String) (found : List (Option Meaning)) :
    Option (Result Meaning) :=
  match name with
  | "isoformat" =>
    some ((exactnessOf 1 found.head?.join).bind fun exactness =>
      (clockText t exactness).map .text)
  | "strftime" => some (writtenBy ⟨Calendar.clockDay, t⟩ found.head?.join)
  | "replace" => some ((replaceTime t found).map fun t => .value (.time t))
  | "dst" | "tzname" | "utcoffset" => some (.ok .absent)
  | _ => none

/-- The result of a function of a date with a time of day. -/
def callDateTime? (d : DateTime) (name : String) (found : List (Option Meaning)) :
    Option (Result Meaning) :=
  match name, found with
  | "ctime", _ => some (.ok (.text (Calendar.lineText d)))
  | "date", _ => some (.ok (.value (.date d.date)))
  | "time", _ | "timetz", _ => some (.ok (.value (.time d.time)))
  | "isoformat", [mark, exactness] =>
    some (do
      let separator ← separatorOf mark
      let shown ← clockText d.time (← exactnessOf 2 exactness)
      return .text (d.date.text ++ separator ++ shown))
  | "timestamp", _ =>
    let since : Int := d.microseconds - (daysBeforeYear 1970 + 1 : Nat) * Duration.units.2
    some (.ok (.float (ratioFloat (since / (1000000 : Nat)))))
  | "timetuple", _ => some (.ok (clockOf d (-1)))
  | "utctimetuple", _ => some (.ok (clockOf d 0))
  | "strftime", _ => some (writtenBy d found.head?.join)
  | "astimezone", [zone] => some ((checkZone zone).map fun _ => .value (.dateTime d))
  | "dst", _ | "tzname", _ | "utcoffset", _ => some (.ok .absent)
  | "replace", _ =>
    some (do
      let date ← replaceDate d.date (found.take 3)
      let time ← replaceTime d.time (found.drop 3)
      return .value (.dateTime ⟨date, time⟩))
  | _, _ => callDate? d.date name found

/-- The result of a function of a duration. -/
def callDuration? (d : Duration) (name : String) : Option (Result Meaning) :=
  if name = "total_seconds" then
    some (.ok (.float (ratioFloat (d.microseconds / (1000000 : Nat)))))
  else none

/-! ### Functions of classes -/

/-- A temporal value that a text writes in the usual form. -/
def readTemporal (type : String) (m : Meaning) : Result Meaning :=
  match m.text? with
  | none => refuse "fromisoformat: argument must be str"
  | some s =>
    let read : Option (Except CalendarFault Value) := match type with
      | "time" => (TimeOfDay.read s).map fun x => x.map .time
      | "datetime" => (DateTime.read s).map fun x => x.map .dateTime
      | _ => (Date.read s).map fun x => x.map .date
    match read with
    | some x => (ofCalendar x).map .value
    | none => .error (.invalid ("Invalid isoformat string: " ++ Text.quoted s))

/-- A date, or a date with the beginning of the day. -/
def dayOf (type : String) (d : Date) : Meaning :=
  .value (if type = "datetime" then .dateTime ⟨d, ⟨0, 0, 0, 0⟩⟩ else .date d)

/-- The day of a number. -/
def dayOfNumber (type : String) (m : Meaning) : Result Meaning :=
  (fieldOf m).bind fun n =>
    match Date.ofOrdinal? n with
    | some d => .ok (dayOf type d)
    | none =>
      ofCalendar (.error (if n < 1 then .ordinal else .year (n * 400 / 146097 + 1)))

/-- The seconds that an argument is. -/
def secondsOf (m : Meaning) : Result Rat :=
  match m.number? with
  | some (.float x) =>
    match exactValue? x with
    | some q => .ok q
    | none =>
      if x.isNaN then .error (.invalid "Invalid value NaN (not a number)")
      else .error (.issue .overflow "timestamp out of range for platform time_t")
  | _ =>
    (indexOf m).bind fun n =>
      if twoPow 63 ≤ n.natAbs then
        .error (.issue .overflow "timestamp out of range for platform time_t")
      else .ok n

/-- The date and time so many seconds after the beginning of 1970. -/
def ofSeconds (type : String) (m : Meaning) : Result Meaning :=
  (secondsOf m).bind fun seconds =>
    let (_, day) := Duration.units
    let since : Int := (daysBeforeYear 1970 + 1 : Nat) * day
    let whole := if type = "date" then seconds.floor * 1000000
      else Duration.nearest (seconds * 1000000)
    match DateTime.ofMicroseconds? (since + whole) with
    | some d => .ok (.value (if type = "date" then .date d.date else .dateTime d))
    | none => ofCalendar (.error (.year ((since + whole) / day * 400 / 146097 + 1)))

/-- A day that stands for the present one, which cannot be asked for. -/
def presentDay : Date := ⟨2025, 1, 1⟩

/-- The result of a function of a temporal class. -/
def callTemporalClass? (type name : String) (found : List (Option Meaning)) :
    Option (Result Meaning) :=
  match name, found with
  | "fromisoformat", [some m] => some (readTemporal type m)
  | "fromordinal", [some m] => some (dayOfNumber type m)
  | "fromisocalendar", [some year, some week, some day] =>
    some (([year, week, day].mapM fieldOf).bind fun fields =>
      match fields with
      | [year, week, day] => (ofCalendar (Date.ofIsoWeek year week day)).map (dayOf type)
      | _ => .ok .absent)
  | "fromtimestamp", some m :: zone =>
    some ((checkZone zone.head?.join).bind fun _ => ofSeconds type m)
  | "utcfromtimestamp", [some m] => some (ofSeconds type m)
  | "strptime", [s, pattern] =>
    some (do
      let text ← textAt "strptime" 1 s
      let pattern ← textAt "strptime" 2 pattern
      match Calendar.recognize text pattern with
      | .ok d => return .value (.dateTime d)
      | .error fault => throw (.invalid (fault.text text pattern)))
  | "combine", [some d, some t, zone] =>
    some (match d, t with
      | .value (.date date), .value (.time time)
      | .value (.dateTime ⟨date, _⟩), .value (.time time) =>
        (checkZone zone).map fun _ => .value (.dateTime ⟨date, time⟩)
      | .value (.date _), _ | .value (.dateTime _), _ =>
        refuse ("combine() argument 2 must be datetime.time, not " ++ t.typeName)
      | _, _ => refuse ("combine() argument 1 must be datetime.date, not " ++ d.typeName))
  | "today", _ | "utcnow", _ => some (.ok (dayOf type presentDay))
  | "now", _ => some ((checkZone found.head?.join).map fun _ => dayOf type presentDay)
  | _, _ => none

end SheetExport.Annotation
