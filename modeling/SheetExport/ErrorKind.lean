/-
**Kinds of errors.**

What goes wrong in a record's own code, or while an annotation is read, belongs to a class of
errors. The class decides who handles the error: an error of names or of types is expected where
annotations are resolved (`ErrorKind.isExpected`), and a command reports errors of values, of
attributes and of imports (`ErrorKind.isReportable`).
-/

namespace SheetExport

/-- The classes of errors. -/
inductive ErrorKind
  | member | byteText | encoding | division | index | key | lookup | memory | unknownName | overflow
  | platform | recursion | runtime | stopped | malformed | type | value
  | missingModule | missingFile | noInput
  /-- Results that decimals do not have. -/
  | decimalOperation | decimalOverflow | decimalDivision
  /-- Another class of errors, by its name. -/
  | other (name : String)
deriving Repr, DecidableEq

namespace ErrorKind

/-- The name of a class of errors. -/
def className : ErrorKind → String
  | member => "AttributeError"
  | byteText => "UnicodeDecodeError"
  | encoding => "UnicodeEncodeError"
  | division => "ZeroDivisionError"
  | index => "IndexError"
  | key => "KeyError"
  | lookup => "LookupError"
  | memory => "MemoryError"
  | missingModule => "ModuleNotFoundError"
  | missingFile => "FileNotFoundError"
  | noInput => "EOFError"
  | unknownName => "NameError"
  | overflow => "OverflowError"
  | platform => "OSError"
  | recursion => "RecursionError"
  | runtime => "RuntimeError"
  | stopped => "StopIteration"
  | malformed => "SyntaxError"
  | type => "TypeError"
  | value => "ValueError"
  | decimalOperation => "InvalidOperation"
  | decimalOverflow => "Overflow"
  | decimalDivision => "DivisionByZero"
  | other name => name

/-- The classes of errors that have a name of their own here. -/
def all : List ErrorKind := [member, byteText, encoding, division, index, key, lookup, memory,
  unknownName, overflow, platform, recursion, runtime, stopped, malformed, type, value,
  missingModule, missingFile, noInput]

/-- The class of errors of a name. -/
def ofName (name : String) : ErrorKind := (all.find? (·.className = name)).getD (other name)

/-- An error that is expected while types may not be declared yet. -/
def isExpected : ErrorKind → Bool
  | unknownName | type => true
  | _ => false

/-- An error that a command reports like a failure of its own. -/
def isReportable : ErrorKind → Bool
  | member | byteText | encoding | value | missingModule => true
  | _ => false

end ErrorKind

end SheetExport
