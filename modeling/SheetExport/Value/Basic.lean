/-
**The values that records hold.**

`Value` covers what a field may contain: the absent value, truth values, exact, floating and
complex numbers, texts, temporal values and durations, members of enumerations, quantities of a
record's own numeric types, and objects of which only a text is known. An enumeration may itself be
of integers or of texts; its members are then numbers or texts as well.
-/

import SheetExport.Calendar.Duration
import SheetExport.ErrorKind
import SheetExport.Number.Complex
import SheetExport.Number.Decimal
import SheetExport.Number.Shortest
import SheetExport.Text.Parts
import SheetExport.Text.Quoted

namespace SheetExport

/-- What a record's own code may raise, and what goes wrong when it is applied. -/
inductive Fault
  /-- The code raised an error with this text. -/
  | raised (text : String)
  | noAttribute (type name : String)
  | noGetter (type name : String)
  | noSetter (type name : String)
  /-- A constructor is not given the fields of these names. -/
  | missingFields (constructor : String) (names : List String)
  | unexpectedField (constructor name : String)
  | notCallable (type : String)
  | noProduct (type : String)
  /-- A product of decimals has no result. -/
  | signalled (signal : Decimal.Signal)
  /-- An integer beyond all floats was to become one. -/
  | beyondFloats
  /-- A text was to be repeated more often than anything can be counted. -/
  | beyondCounts
  /-- A text would become longer than anything can be. -/
  | tooLong
  | outOfMemory
  /-- An integer has more digits than are written. -/
  | tooManyDigits
  /-- A signalling undefined number was used as a key. -/
  | unusableKey
  /-- What is asked for the text of a record gives a value of another type. -/
  | notText (asked type : String)
  /-- What is asked whether a record counts as true gives a value of another type. -/
  | notTruth (type : String)
  /-- What is asked how many items a record has gives a value that is no integer. -/
  | notCount (type : String)
  | negativeCount
  /-- Another error, in the words of what raises it. -/
  | issue (kind : ErrorKind) (text : String)
deriving Repr, DecidableEq

/-- How many bytes of a type's name are shown where an attribute is missing. -/
def shownTypeBytes : Nat := 50

/-- Names in quotes, one after the other. -/
def enumerated (names : List String) : String :=
  match names.map Text.quoted with
  | [first, second] => first ++ " and " ++ second
  | first :: second :: rest =>
    ", ".intercalate (first :: second :: rest.dropLast) ++ ", and " ++ rest.getLastD ""
  | short => "".intercalate short

/-- The text of a fault. -/
def Fault.message : Fault → String
  | raised text => text
  | noAttribute type name =>
    "'" ++ Text.cut shownTypeBytes type ++ "' object has no attribute '" ++ name ++ "'"
  | noGetter type name =>
    "property " ++ Text.quoted name ++ " of " ++ Text.quoted type ++ " object has no getter"
  | noSetter type name =>
    "property " ++ Text.quoted name ++ " of " ++ Text.quoted type ++ " object has no setter"
  | missingFields constructor names =>
    constructor ++ ".__init__() missing " ++ toString names.length ++
      " required keyword-only argument" ++ (if names.length = 1 then "" else "s") ++ ": " ++
      enumerated names
  | unexpectedField constructor name =>
    constructor ++ ".__init__() got an unexpected keyword argument '" ++ name ++ "'"
  | notCallable type => "'" ++ type ++ "' object is not callable"
  | noProduct type => "unsupported operand type(s) for *: '" ++ type ++ "' and 'int'"
  | signalled signal => signal.text
  | beyondFloats => "int too large to convert to float"
  | beyondCounts => "cannot fit 'int' into an index-sized integer"
  | tooLong => "repeated string is too long"
  | outOfMemory => ""
  | tooManyDigits =>
    "Exceeds the limit (4300 digits) for integer string conversion; " ++
      "use sys.set_int_max_str_digits() to increase the limit"
  | unusableKey => "Cannot hash a signaling NaN value"
  | notText asked type => asked ++ " returned non-string (type " ++ type ++ ")"
  | notTruth type => "__bool__ should return bool, returned " ++ type
  | notCount type => "'" ++ type ++ "' object cannot be interpreted as an integer"
  | negativeCount => "__len__() should return >= 0"
  | issue _ text => text

/-- The class of errors that a signal is handled as. -/
def Decimal.Signal.kind (s : Decimal.Signal) : ErrorKind :=
  match s.handledAs with
  | .overflow => .decimalOverflow
  | .divisionByZero => .decimalDivision
  | _ => .decimalOperation

/-- The class of errors that a fault belongs to. -/
def Fault.kind : Fault → ErrorKind
  | raised _ | tooManyDigits | negativeCount => .value
  | noAttribute .. | noGetter .. | noSetter .. => .member
  | signalled signal => signal.kind
  | beyondFloats | beyondCounts | tooLong => .overflow
  | outOfMemory => .memory
  | issue kind _ => kind
  | _ => .type

/-- A value of a record's field. -/
inductive Value
  | null
  | bool (b : Bool)
  | int (n : Int)
  | float (x : Float)
  | text (s : String)
  | decimal (d : Decimal)
  | ratio (q : Rat)
  | date (d : Date)
  | dateTime (d : DateTime)
  | time (t : TimeOfDay)
  | duration (d : Duration)
  | complex (z : Complex)
  /-- A member of a plain enumeration: its label and the value it stands for. -/
  | member (label : String) (value : Value)
  /-- A member of an enumeration of integers. -/
  | intMember (label : String) (n : Int)
  /-- A member of an enumeration of texts. -/
  | textMember (label : String) (s : String)
  /-- A number of a type of its own: its text, and the float it converts to, if it does. -/
  | quantity (shown : String) (magnitude : Option Float)
  /-- An object that is no number: its text, or what it raises when asked for one. -/
  | object (shown : Except Fault String)
  /-- Code that is read and not called: the name of its type, and its text. -/
  | code (typeName : String) (shown : Except Fault String)
deriving Inhabited

namespace Value

/-- The text of a truth value. -/
def boolText (b : Bool) : String := if b then "True" else "False"

/-- The most digits that an integer is written with. -/
def maxDigits : Nat := 4300

/-- The text of an integer. -/
def integerText (n : Int) : Except Fault String :=
  if n.natAbs < tenPow maxDigits then .ok (toString n) else .error .tooManyDigits

/-- The text of an exact ratio; a whole number has no denominator. -/
def ratioDisplay (q : Rat) : Except Fault String :=
  if q.den = 1 then integerText q.num
  else
    (integerText q.num).bind fun num => (integerText q.den).map fun den => num ++ "/" ++ den

/-- The text of a value; an object may have none. -/
def display : Value → Except Fault String
  | null => .ok "None"
  | bool b => .ok (boolText b)
  | int n | intMember _ n => integerText n
  | float x => .ok (floatText x)
  | text s | textMember _ s => .ok s
  | decimal d => .ok d.text
  | ratio q => ratioDisplay q
  | date d => .ok d.text
  | dateTime d => .ok (d.text " ")
  | time t => .ok t.text
  | duration d => .ok d.text
  | complex z => .ok z.text
  | member label _ => .ok label
  | quantity shown _ => .ok shown
  | object shown | code _ shown => shown

/-- The numbers of a call, separated by commas. -/
def callText (function : String) (arguments : List Nat) : String :=
  function ++ "(" ++ ", ".intercalate (arguments.map toString) ++ ")"

/-- The numbers of a time of day, from the second on only as far as they are not zero. -/
def timeFields (t : TimeOfDay) : List Nat :=
  [t.hour, t.minute] ++
    (if t.microsecond ≠ 0 then [t.second, t.microsecond]
     else if t.second ≠ 0 then [t.second] else [])

/-- A duration by those of its fields that are not zero. -/
def durationText (d : Duration) : String :=
  let fields := d.namedFields.map fun (name, n) => name ++ "=" ++ toString n
  "datetime.timedelta(" ++ (if fields.isEmpty then "0" else ", ".intercalate fields) ++ ")"

/-- A member of an enumeration, with its value written out. -/
def memberText (label value : String) : String := "<" ++ label ++ ": " ++ value ++ ">"

/-- The label of a member of an enumeration. -/
def label? : Value → Option String
  | member label _ | intMember label _ | textMember label _ => some label
  | _ => none

/-- The enumeration that a label names a member of. -/
def enumerationName (label : String) : String := String.ofList (label.toList.takeWhile (· ≠ '.'))

/-- A value as it would be written in code: texts are quoted, other kinds are named. -/
def literal : Value → Except Fault String
  | null => .ok "None"
  | bool b => .ok (boolText b)
  | int n => integerText n
  | float x => .ok (floatText x)
  | text s => .ok (Text.quoted s)
  | decimal d => .ok ("Decimal('" ++ d.text ++ "')")
  | ratio q =>
    (integerText q.num).bind fun num =>
      (integerText q.den).map fun den => "Fraction(" ++ num ++ ", " ++ den ++ ")"
  | date d => .ok (callText "datetime.date" [d.year, d.month, d.day])
  | dateTime d =>
    .ok (callText "datetime.datetime"
      ([d.date.year, d.date.month, d.date.day] ++ timeFields d.time))
  | time t => .ok (callText "datetime.time" (timeFields t))
  | duration d => .ok (durationText d)
  | complex z => .ok z.text
  | member label value => value.literal.map (memberText label)
  | intMember label n => (integerText n).map (memberText label)
  | textMember label s => .ok (memberText label (Text.quoted s))
  | quantity shown _ => .ok shown
  | object (.ok shown) => .ok shown
  | object (.error _) => .ok "<object>"
  | code _ shown => shown

/-- The type of objects of which only a text is known. -/
def objectType : String := "Obj"

/-- The name of a value's type. -/
def typeName : Value → String
  | null => "NoneType"
  | bool _ => "bool"
  | int _ => "int"
  | float _ => "float"
  | text _ => "str"
  | decimal _ => "Decimal"
  | ratio _ => "Fraction"
  | date _ => "date"
  | dateTime _ => "datetime"
  | time _ => "time"
  | duration _ => "timedelta"
  | complex _ => "complex"
  | member label _ | intMember label _ | textMember label _ => enumerationName label
  | quantity shown _ => String.ofList (shown.toList.takeWhile (· ≠ '('))
  | object _ => objectType
  | code name _ => name

/-- The name of a value's type with the module that it is known by, if it has one. -/
def typePath (v : Value) : String :=
  match v with
  | decimal _ => "decimal." ++ v.typeName
  | date _ | dateTime _ | time _ | duration _ => "datetime." ++ v.typeName
  | _ => v.typeName

/-- The text of a value that is one, members of enumerations of texts included. -/
def textual? : Value → Option String
  | text s | textMember _ s => some s
  | _ => none

/-- Counts as true: all values but null, false, zeros and the empty text. -/
def isTruthy : Value → Bool
  | null => false
  | bool b => b
  | int n | intMember _ n => n != 0
  | float x => !(x == 0.0)
  | text s | textMember _ s => !s.isEmpty
  | decimal (.finite _ coefficient _) => coefficient != 0
  | ratio q => q.num != 0
  | duration d => d.microseconds != 0
  | complex z => !(z.re == 0.0 && z.im == 0.0)
  | _ => true

/-- A date, a time of day, or both. -/
def isTemporal : Value → Bool
  | date _ | dateTime _ | time _ => true
  | _ => false

end Value

end SheetExport
