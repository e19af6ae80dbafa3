/-
**What values have under a name.**

Numbers have parts, temporal values fields and bounds, and members of enumerations their names and
values (`Value.attribute?`). `descriptions` has the text by which each class of values explains its
values and how they are made.
-/

import SheetExport.Value.Basic

namespace SheetExport

/-- The first and the last date. -/
def Date.bounds : Date × Date := (⟨1, 1, 1⟩, ⟨9999, 12, 31⟩)

/-- The first and the last time of a day. -/
def TimeOfDay.bounds : TimeOfDay × TimeOfDay := (⟨0, 0, 0, 0⟩, ⟨23, 59, 59, 999999⟩)

namespace Value

/-- A natural number as a value. -/
def ofNat (n : Nat) : Value := int n

/-- The name of a member of an enumeration. -/
def memberName (label : String) : String :=
  String.ofList ((label.toList.dropWhile (· ≠ '.')).drop 1)

/-- The parts of an integer. -/
def integerPart? (n : Int) : String → Option Value
  | "real" | "numerator" => some (int n)
  | "imag" => some (int 0)
  | "denominator" => some (int 1)
  | _ => none

/-- The name and the value of a member of an enumeration. -/
def memberPart? (label : String) (value : Value) : String → Option Value
  | "name" | "_name_" => some (text (memberName label))
  | "value" | "_value_" => some value
  | _ => none

/-- The fields of a date. -/
def dateField? (d : Date) : String → Option Value
  | "year" => some (ofNat d.year)
  | "month" => some (ofNat d.month)
  | "day" => some (ofNat d.day)
  | _ => none

/-- The fields of a time of day. -/
def timeField? (t : TimeOfDay) : String → Option Value
  | "hour" => some (ofNat t.hour)
  | "minute" => some (ofNat t.minute)
  | "second" => some (ofNat t.second)
  | "microsecond" => some (ofNat t.microsecond)
  | "fold" => some (ofNat 0)
  | "tzinfo" => some null
  | _ => none

/-- The bounds of a temporal type and the least difference of its values. -/
def bound? (least greatest : Value) (resolution : Duration) : String → Option Value
  | "min" => some least
  | "max" => some greatest
  | "resolution" => some (duration resolution)
  | _ => none

/-- The parts of a number that is no integer. -/
def parts? (v rest : Value) (name : String) : Option Value :=
  if name = "real" then some v else if name = "imag" then some rest else none

/-- The fields of a duration and the bounds of durations. -/
def durationPart? (d : Duration) (name : String) : Option Value :=
  let (days, seconds, microseconds) := d.fields
  let (least, greatest) := Duration.bounds
  match name with
  | "days" => some (int days)
  | "seconds" => some (int seconds)
  | "microseconds" => some (int microseconds)
  | _ => bound? (duration least) (duration greatest) ⟨1⟩ name

/-- What a value has under a name. -/
def attribute? (v : Value) (name : String) : Option Value :=
  let tick : Duration := ⟨1⟩
  let (firstDay, lastDay) := Date.bounds
  let (dayStart, dayEnd) := TimeOfDay.bounds
  match v with
  | bool b => integerPart? (if b then 1 else 0) name
  | int n => integerPart? n name
  | intMember label n => (memberPart? label (int n) name).or (integerPart? n name)
  | textMember label s => memberPart? label (text s) name
  | member label value => memberPart? label value name
  | float _ => parts? v (float 0.0) name
  | complex z =>
    if name = "real" then some (float z.re) else if name = "imag" then some (float z.im) else none
  | decimal _ => parts? v (decimal (.finite false 0 0)) name
  | ratio q =>
    match name with
    | "real" => some (ratio q)
    | "imag" => some (int 0)
    | "numerator" => some (int q.num)
    | "denominator" => some (ofNat q.den)
    | _ => none
  | date d =>
    (dateField? d name).or (bound? (date firstDay) (date lastDay) ⟨Duration.units.2⟩ name)
  | time t => (timeField? t name).or (bound? (time dayStart) (time dayEnd) tick name)
  | dateTime d =>
    ((dateField? d.date name).or (timeField? d.time name)).or
      (bound? (dateTime ⟨firstDay, dayStart⟩) (dateTime ⟨lastDay, dayEnd⟩) tick name)
  | duration d => durationPart? d name
  | _ => none

end Value

/-! ### What classes say of themselves -/

/-- The descriptions of classes by their names. -/
def descriptions : List (String × String) := [
  ("int",
    "int([x]) -> integer\nint(x, base=10) -> integer\n\nConvert a number or string to an " ++
      "integer, or return 0 if no arguments\nare given.  If x is a number, return " ++
      "x.__int__().  For floating point\nnumbers, this truncates towards zero.\n\nIf x is " ++
      "not a number or if base is given, then x must be a string,\nbytes, or bytearray " ++
      "instance representing an integer literal in the\ngiven base.  The literal can be " ++
      "preceded by '+' or '-' and be surrounded\nby whitespace.  The base defaults to 10.  " ++
      "Valid bases are 0 and 2-36.\nBase 0 means to interpret the base from the string as " ++
      "an integer literal.\n>>> int('0b100', base=0)\n4"),
  ("float",
    "Convert a string or number to a floating point number, if possible."),
  ("str",
    "str(object='') -> str\nstr(bytes_or_buffer[, encoding[, errors]]) -> str\n\nCreate " ++
      "a new string object from the given object. If encoding or\nerrors is specified, " ++
      "then the object must expose a data buffer\nthat will be decoded using the given " ++
      "encoding and error handler.\nOtherwise, returns the result of object.__str__() (if " ++
      "defined)\nor repr(object).\nencoding defaults to sys.getdefaultencoding().\nerrors " ++
      "defaults to 'strict'."),
  ("bool",
    "bool(x) -> bool\n\nReturns True when the argument x is true, False otherwise.\nThe " ++
      "builtins True and False are the only two instances of the class bool.\nThe class " ++
      "bool is a subclass of the class int, and cannot be subclassed."),
  ("complex",
    "Create a complex number from a real part and an optional imaginary part.\n\nThis is " ++
      "equivalent to (real + imag*1j) where imag defaults to 0."),
  ("Decimal",
    "Construct a new Decimal object. 'value' can be an integer, string, tuple,\nor " ++
      "another Decimal object. If no value is given, return Decimal('0'). The\ncontext " ++
      "does not affect the conversion and is only passed to determine if\nthe " ++
      "InvalidOperation trap is active.\n\n"),
  ("Fraction",
    "This class implements rational numbers.\n\n    In the two-argument form of the " ++
      "constructor, Fraction(8, 6) will\n    produce a rational number equivalent to 4/3. " ++
      "Both arguments must\n    be Rational. The numerator defaults to 0 and the " ++
      "denominator\n    defaults to 1 so that Fraction(3) == 3 and Fraction() == 0.\n\n    " ++
      "Fractions can also be constructed from:\n\n      - numeric strings similar to those " ++
      "accepted by the\n        float constructor (for example, '-2.3' or '1e10')\n\n      " ++
      "- strings of the form '123/456'\n\n      - float and Decimal instances\n\n      - " ++
      "other Rational instances (including integers)\n\n    "),
  ("date",
    "date(year, month, day) --> date object"),
  ("time",
    "time([hour[, minute[, second[, microsecond[, tzinfo]]]]]) --> a time object\n\nAll " ++
      "arguments are optional. tzinfo may be None, or an instance of\na tzinfo subclass. " ++
      "The remaining arguments may be ints.\n"),
  ("datetime",
    "datetime(year, month, day[, hour[, minute[, second[, microsecond[,tzinfo]]]]])\n\n" ++
      "The year, month and day arguments are required. tzinfo may be None, or an\ninstance " ++
      "of a tzinfo subclass. The remaining arguments may be ints.\n"),
  ("timedelta",
    "Difference between two datetime values.\n\ntimedelta(days=0, seconds=0, " ++
      "microseconds=0, milliseconds=0, minutes=0, hours=0, weeks=0)\n\nAll arguments are " ++
      "optional and default to 0.\nArguments may be integers or floats, and may be " ++
      "positive or negative.")]

/-- The description of a class of a name, if it has one. -/
def description? (type : String) : Option String := descriptions.lookup type

end SheetExport
