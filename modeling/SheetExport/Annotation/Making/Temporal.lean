/-
**Dates, times and durations made of numbers.**

`makeDate`, `makeTime`, `makeDateTime` and `makeDuration` take the arguments of a call as the fields
of a temporal value, and refuse what is none.
-/

import SheetExport.Annotation.Making.Number
import SheetExport.Calendar.Pattern

namespace SheetExport.Annotation

/-- The greatest number of a field. -/
def fieldLimit : Nat := twoPow 31

/-- A field of a temporal value: an integer that is not too great. -/
def fieldOf (m : Meaning) : Result Int :=
  (indexOf m).bind fun n =>
    if twoPow 63 ≤ n.natAbs then
      .error (.issue .overflow "Python int too large to convert to C long")
    else if fieldLimit ≤ n.natAbs then
      .error (.issue .overflow ("signed integer is " ++
        (if n < 0 then "less than minimum" else "greater than maximum")))
    else .ok n

/-- A field that may not be given. -/
def fieldOr (default : Int) (m : Option Meaning) : Result Int := m.elim (.ok default) fieldOf

/-- A result of the calendar. -/
def ofCalendar {α : Type} (x : Except CalendarFault α) : Result α :=
  x.mapError fun fault => .ofFault (.ofCalendar fault)

/-- A date, made of the arguments of a call. -/
def makeDate (a : Arguments) : Result Meaning := do
  let found ← Signature.settle (.unnamedParameters ["year", "month", "day"] 3) "date" "date" a
  match ← found.mapM (fieldOr 0) with
  | [year, month, day] => (ofCalendar (Date.check year month day)).map fun d => .value (.date d)
  | _ => return .absent

/-- No time zone can be given but the absent one. -/
def checkZone (m : Option Meaning) : Result Unit :=
  match m with
  | none | some .absent => .ok ()
  | some m =>
    refuse ("tzinfo argument must be None or of a tzinfo subclass, not type '" ++ m.typeName ++ "'")

/-- Which of two times of the same clock is meant. -/
def checkFold (n : Int) : Result Unit :=
  if n = 0 ∨ n = 1 then .ok () else ofCalendar (.error .fold)

/-- A time of day, made of arguments of a call that may be absent. -/
def timeOfFields (fields : List (Option Meaning)) : Result TimeOfDay := do
  match ← (fields.take 4).mapM (fieldOr 0) with
  | [hour, minute, second, microsecond] =>
    let fold ← fieldOr 0 (fields.getD 5 none)
    let time ← ofCalendar (TimeOfDay.check hour minute second microsecond)
    checkFold fold
    checkZone (fields.getD 4 none)
    return time
  | _ => return ⟨0, 0, 0, 0⟩

/-- The signature of a temporal class, of which the last parameter is only given by its name. -/
def settleFields (names : List String) (required : Nat) (a : Arguments) :
    Result (List (Option Meaning)) :=
  Signature.settleNamed "function" "this function" names required (names.length - 1) a

/-- A time of day, made of the arguments of a call. -/
def makeTime (a : Arguments) : Result Meaning :=
  ((settleFields clockFields 0 a).bind timeOfFields).map fun t => .value (.time t)

/-- A date with a time of day, made of the arguments of a call. -/
def makeDateTime (a : Arguments) : Result Meaning := do
  let found ← settleFields (words "year month day" ++ clockFields) 3 a
  match ← (found.take 3).mapM (fieldOr 0), ← (found.drop 3 |>.take 4).mapM (fieldOr 0) with
  | [year, month, day], _ =>
    let date ← ofCalendar (Date.check year month day)
    let time ← timeOfFields (found.drop 3)
    return .value (.dateTime ⟨date, time⟩)
  | _, _ => return .absent

/-! ### Durations -/

/-- The parts that a duration is made of, with the microseconds of each. -/
def durationUnits : List (String × Int) :=
  [("days", 86400000000), ("seconds", 1000000), ("microseconds", 1), ("milliseconds", 1000),
    ("minutes", 60000000), ("hours", 3600000000), ("weeks", 604800000000)]

/-- The microseconds of a part of a duration, and what is less than one of them. -/
def durationPart (name : String) (unit : Int) (m : Meaning) : Result Rat :=
  match m.number? with
  | some (.whole n) => .ok (n * unit)
  | some (.float x) =>
    match exactValue? x with
    | some q => .ok (q * unit)
    | none => (ofValues (Numeric.float x).truncated).map fun n => n
  | _ =>
    refuse ("unsupported type for timedelta " ++ name ++ " component: " ++ m.typeName)

/-- A duration, made of the arguments of a call. -/
def makeDuration (a : Arguments) : Result Meaning := do
  let names := durationUnits.map Prod.fst
  let found ← Signature.settleNamed "__new__()" "__new__()" names 0 names.length a
  let given := (durationUnits.zip found).filterMap fun ((name, unit), m) =>
    m.map fun m => (name, unit, m)
  let parts ← given.mapM fun (name, unit, m) => durationPart name unit m
  let total := parts.foldl (· + ·) 0
  if twoPow 31 * 86400000000 ≤ total.floor.natAbs then
    .error (.issue .overflow "Python int too large to convert to C int")
  else (ofValues (Value.nearestDuration total)).map .value

end SheetExport.Annotation
