/-
**Classes, and what they are derived from.**

The classes known everywhere are found by their names (`classOfName`). A class is derived from
others (`ancestors`), and its values may count as values of classes that it is not derived from
(`isSubclass`).
-/

import SheetExport.FieldType.Basic

namespace SheetExport

namespace KnownClass

/-- The name of a class as it calls itself. -/
def ownName (c : KnownClass) : String := if c = FieldType.noneClass then "NoneType" else c.name

/-- The name of a class with its module, if it needs one. -/
def path (c : KnownClass) : String := if c.module = "" then c.ownName else c.module ++ "." ++ c.name

/-- The name of a class in messages about what it lacks. -/
def messageName (c : KnownClass) : String := if c.make = .native then c.path else c.ownName

/-- The name of the type of a class. -/
def metaclass (c : KnownClass) : String :=
  match c.make with
  | .native | .ordinary | .derived => "type"
  | .abstract => "ABCMeta"
  | .enumeration => "EnumType"
  | .universal => "_AnyMeta"

/-- The text of a class. -/
def shown (c : KnownClass) : String :=
  match c.make with
  | .enumeration => "<enum '" ++ c.name ++ "'>"
  | .universal => c.path
  | _ => "<class '" ++ c.path ++ "'>"

end KnownClass

namespace Annotation

/-- The words of a text. -/
def words (s : String) : List String := s.splitOn " "

/-! ### Names of classes -/

/-- Classes of collections, which can be applied to the types of their items. -/
def collectionNames : List String :=
  words "list dict tuple set frozenset type enumerate BaseExceptionGroup ExceptionGroup"

/-- Further classes known everywhere that are none of errors. -/
def classNames : List String :=
  words ("bytearray classmethod filter map memoryview property range reversed slice " ++
    "staticmethod super zip")

/-- Classes of errors: the name of one, and those of the ones that are derived from it. -/
def errorNames : List (String × List String) := [
  ("BaseException", words ("BaseExceptionGroup Exception GeneratorExit " ++
    "KeyboardInterrupt SystemExit")),
  ("Exception", words ("ArithmeticError AssertionError AttributeError BufferError EOFError " ++
    "ExceptionGroup ImportError LookupError MemoryError NameError OSError ReferenceError RuntimeError " ++
    "StopAsyncIteration StopIteration SyntaxError SystemError TypeError ValueError Warning")),
  ("ArithmeticError", words "FloatingPointError OverflowError ZeroDivisionError"),
  ("ImportError", ["ModuleNotFoundError"]),
  ("LookupError", words "IndexError KeyError"),
  ("NameError", ["UnboundLocalError"]),
  ("OSError", words ("BlockingIOError ChildProcessError ConnectionError FileExistsError " ++
    "FileNotFoundError InterruptedError IsADirectoryError NotADirectoryError PermissionError " ++
    "ProcessLookupError TimeoutError")),
  ("ConnectionError", words ("BrokenPipeError ConnectionAbortedError ConnectionRefusedError " ++
    "ConnectionResetError")),
  ("RuntimeError", words "NotImplementedError RecursionError"),
  ("SyntaxError", ["IndentationError"]),
  ("IndentationError", ["TabError"]),
  ("ValueError", ["UnicodeError"]),
  ("UnicodeError", words "UnicodeDecodeError UnicodeEncodeError UnicodeTranslateError"),
  ("Warning", words ("BytesWarning DeprecationWarning EncodingWarning FutureWarning " ++
    "ImportWarning PendingDeprecationWarning ResourceWarning RuntimeWarning SyntaxWarning " ++
    "UnicodeWarning UserWarning"))]

/-- The classes of errors that one of a name is derived from, nearest first, up to a depth. -/
def errorParents : Nat → String → List String
  | 0, _ => []
  | depth + 1, name =>
    match errorNames.find? (·.2.contains name) with
    | some (parent, _) => parent :: errorParents depth parent
    | none => []

/-- How deep classes of errors are derived from each other at most. -/
def errorDepth : Nat := 8

/-- The class of errors of a name. -/
def errorClass? (name : String) : Option KnownClass :=
  let parents := errorParents errorDepth name
  if name = "BaseException" ∨ !parents.isEmpty then
    some { KnownClass.everyday name with parents }
  else if name = "EnvironmentError" ∨ name = "IOError" then
    some { KnownClass.everyday "OSError" with parents := errorParents errorDepth "OSError" }
  else none

/-- The class of lists. -/
def listClass : KnownClass := .everyday "list"

/-- The class of everything. -/
def objectClass : KnownClass := .everyday "object"

/-- The class that adds notes to types. -/
def annotatedClass : KnownClass := ⟨"Annotated", .other, "typing", .ordinary, [], []⟩

/-- A class that can be applied to the types of items. -/
def isCollection (c : KnownClass) : Bool := c.module = "" && collectionNames.contains c.name

/-! ### Derivation -/

/-- Classes that others are derived from and that no name stands for. -/
def hiddenClasses : List KnownClass :=
  let wholes := KnownClass.wholeNumbers
  let enumeration := fun (name : String) (kind : FieldKind) (parents counts : List String) =>
    KnownClass.mk name kind "enum" .enumeration parents counts
  [⟨"Rational", .numeric, "numbers", .abstract, wholes.drop 2, []⟩,
    ⟨"Complex", .other, "numbers", .abstract, wholes.drop 4, []⟩, enumeration "Enum" .other [] [],
    enumeration "ReprEnum" .other ["Enum"] [],
    enumeration "IntEnum" .numeric ["int", "ReprEnum", "Enum"] wholes,
    enumeration "StrEnum" .other ["str", "ReprEnum", "Enum"] []]

/-- The class of a name, known everywhere or by its module. -/
def classOfName (name : String) : KnownClass :=
  match (FieldType.standardClasses ++ hiddenClasses).find? (·.name = name), errorClass? name with
  | some c, _ => c
  | none, some c => c
  | none, none => .everyday name

/-- A class and the classes it is derived from, nearest first. -/
def ancestors (c : KnownClass) : List KnownClass :=
  if c = objectClass then [c] else c :: c.parents.map classOfName ++ [objectClass]

/-- Values of a class are values of another one. -/
def isSubclass (c other : KnownClass) : Bool :=
  (ancestors c).contains other ||
    (other.module = "numbers" && c.countsAs.contains other.name)

/-- A class of errors. -/
def isErrorClass (c : KnownClass) : Bool :=
  c.module = "" && (c :: ancestors c).any (·.name = "BaseException")

/-- A class is one of a name, or derived from it. -/
def belongsTo (c : KnownClass) (name : String) : Bool := (ancestors c).any (·.name = name)

/-- The class that is derived from others under a name of its own. -/
def derivedClass (name : String) (bases : List KnownClass) : KnownClass :=
  let bases := bases.filter (· ≠ objectClass)
  let parents := (bases.flatMap fun b => b.name :: b.parents).reverse.eraseDups.reverse
  let kind := ((bases.map (·.kind)).find? (· ≠ .other)).getD .other
  let isAbstract := bases.any (·.make = .abstract)
  ⟨name, kind, if isAbstract then "abc" else "", if isAbstract then .abstract else .derived,
    parents, bases.flatMap (·.countsAs)⟩

/-- Classes of errors whose values hold more than the arguments that they were made of. -/
def detailedErrors : List String :=
  words ("AttributeError ImportError NameError OSError StopIteration SyntaxError SystemExit " ++
    "UnicodeDecodeError UnicodeEncodeError UnicodeTranslateError BaseExceptionGroup BaseException")

/-- The class that decides how the values of a class are laid out, if one does. -/
def layoutClass? (c : KnownClass) : Option KnownClass :=
  (ancestors c).find? fun a =>
    if isErrorClass a then detailedErrors.contains a.name
    else (a.make = .native && a ≠ objectClass && a.name ≠ "bool") || a.name = "Fraction"

/-- The classes cannot be laid out together. -/
def haveLayoutConflict (classes : List KnownClass) : Bool :=
  let deciding := classes.filterMap layoutClass?
  deciding.any fun a => deciding.any fun b => !isSubclass a b && !isSubclass b a

/-- A class stands before one that is derived from it. -/
def areMisordered : List KnownClass → Bool
  | [] => false
  | c :: rest => rest.any (fun d => (ancestors d).contains c) || areMisordered rest

end Annotation

end SheetExport
