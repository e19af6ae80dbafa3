/-
**Errors as values.**

An error keeps the arguments that it is made of (`makeError`). Those of the platform become errors
of a narrower class by their numbers, groups of errors hold errors, and some classes give the parts
of their values names of their own (`errorPart?`).
-/

import SheetExport.Annotation.Items
import SheetExport.Annotation.Signature

namespace SheetExport.Annotation

/-! ### Errors of the platform -/

/-- Classes of errors of the platform, by the numbers of their errors. -/
def platformErrors : List (String × List Int) := [
  ("PermissionError", [1, 13]), ("FileNotFoundError", [2]), ("ProcessLookupError", [3]),
  ("InterruptedError", [4]), ("ChildProcessError", [10]), ("BlockingIOError", [11, 114, 115]),
  ("FileExistsError", [17]), ("NotADirectoryError", [20]), ("IsADirectoryError", [21]),
  ("BrokenPipeError", [32, 108]), ("ConnectionAbortedError", [103]),
  ("ConnectionResetError", [104]), ("TimeoutError", [110]), ("ConnectionRefusedError", [111])]

/-- The class of an error of the platform that has a number and a text. -/
def platformClass (c : KnownClass) (arguments : List Meaning) : KnownClass :=
  match c.name, arguments with
  | "OSError", number :: _ :: _ =>
    let narrower := number.integer?.bind fun n => platformErrors.find? (·.2.contains n)
    ((narrower.bind fun (name, _) => errorClass? name)).getD c
  | _, _ => c

/-! ### Groups of errors -/

/-- A value of a class of errors. -/
def isError : Meaning → Bool
  | .made c _ => isErrorClass c
  | _ => false

/-- A group of errors, made of the arguments of a call. -/
def makeGroup (c : KnownClass) (arguments : List Meaning) : Result Meaning :=
  let function := "BaseExceptionGroup.__new__()"
  let isOrdinary := fun m : Meaning => match m with
    | .made c _ => (ancestors c).any (·.name = "Exception")
    | _ => false
  match arguments with
  | [title, errors] =>
    match title.text?, itemsOf? errors with
    | none, _ => refuse (function ++ " argument 1 must be str, not " ++ title.typeName)
    | some _, none => refuse "second argument (exceptions) must be a sequence"
    | some _, some [] =>
      .error (.invalid "second argument (exceptions) must be a non-empty sequence")
    | some _, some items =>
      match items.zipIdx.find? fun (m, _) => !isError m with
      | some (_, place) =>
        .error (.invalid ("Item " ++ toString place ++
          " of second argument (exceptions) is not an exception"))
      | none =>
        if items.all isOrdinary then .ok (.made (classOfName "ExceptionGroup") [title, errors])
        else if c.name = "ExceptionGroup" then
          refuse "Cannot nest BaseExceptions in an ExceptionGroup"
        else .ok (.made c [title, errors])
  | _ =>
    refuse (function ++ " takes exactly 2 arguments (" ++ toString arguments.length ++ " given)")

/-! ### All errors -/

/-- Classes of errors that take arguments with names, and these names. -/
def namedParts : String → List String
  | "ImportError" | "ModuleNotFoundError" => ["name", "path"]
  | "NameError" | "UnboundLocalError" => ["name"]
  | "AttributeError" => ["name", "obj"]
  | _ => []

/-- An error, made of the arguments of a call. -/
def makeError (c : KnownClass) (a : Arguments) : Result Meaning :=
  let isUnicode := (words "UnicodeDecodeError UnicodeEncodeError").contains c.name
  let takesNames := !(namedParts c.name).isEmpty
  match a.named.find? fun (name, _) => !takesNames || !(namedParts c.name).contains name with
  | some (name, _) =>
    if takesNames then
      refuse ("'" ++ name ++ "' is an invalid keyword argument for " ++
        (if c.name = "ModuleNotFoundError" then "ImportError" else c.name) ++ "()")
    else refuse (c.name ++ "() takes no keyword arguments")
  | none =>
    if c.name.endsWith "ExceptionGroup" then makeGroup c a.plain
    else if isUnicode && a.plain.length ≠ 5 then
      refuse ("function takes exactly 5 arguments (" ++ toString a.plain.length ++ " given)")
    else .ok (.made (platformClass c a.plain) a.plain)

/-- Raises an error in what gives its items one by one: a class of errors, or an error. -/
def raiseThrough (a : Arguments) : Result Meaning :=
  match a.plain with
  | [] => refuse "throw expected at least 1 argument, got 0"
  | .named c :: rest =>
    if isErrorClass c then
      (ofValues ((rest.head?.elim (.ok "") Meaning.display))).bind fun shown =>
        .error (.issue (.ofName c.name) shown)
    else refuse "exceptions must be classes or instances deriving from BaseException, not type"
  | m :: _ =>
    match m with
    | .made c arguments =>
      if isErrorClass c then
        (ofValues (Meaning.errorText c arguments)).bind fun shown =>
          .error (.issue (.ofName c.name) shown)
      else refuse ("exceptions must be classes or instances deriving from BaseException, not " ++
        m.typeName)
    | m =>
      refuse ("exceptions must be classes or instances deriving from BaseException, not " ++
        m.typeName)

/-- The name that a class of errors gives a part of its values, and the part. -/
def errorPart? (c : KnownClass) (arguments : List Meaning) (name : String) : Option Meaning :=
  let belongs := belongsTo c
  let part := fun place : Nat => some (arguments[place]?.getD .absent)
  let platformPart := fun place => if arguments.length < 2 then some .absent else part place
  match name with
  | "args" => some (.tuple (if belongs "OSError" then arguments.take 2 else arguments))
  | "__cause__" | "__context__" | "__traceback__" => some .absent
  | "__suppress_context__" => some (.truth false)
  | "value" => if belongs "StopIteration" then part 0 else none
  | "code" =>
    if !belongs "SystemExit" then none
    else if arguments.length < 2 then part 0 else some (.tuple arguments)
  | "errno" => if belongs "OSError" then platformPart 0 else none
  | "strerror" => if belongs "OSError" then platformPart 1 else none
  | "filename" =>
    if belongs "OSError" then platformPart 2
    else if belongs "SyntaxError" then some .absent else none
  | "filename2" => if belongs "OSError" then some .absent else none
  | "msg" =>
    if belongs "SyntaxError" then part 0
    else if belongs "ImportError" then some (if arguments.length = 1 then arguments.headD .absent
      else .absent)
    else none
  | "name" =>
    if belongs "ImportError" || belongs "NameError" || belongs "AttributeError" then some .absent
    else none
  | "path" => if belongs "ImportError" then some .absent else none
  | "obj" => if belongs "AttributeError" then some .absent else none
  | "message" => if c.name.endsWith "ExceptionGroup" then part 0 else none
  | "exceptions" =>
    if c.name.endsWith "ExceptionGroup" then
      (arguments[1]?.bind itemsOf?).map .tuple
    else none
  | "lineno" | "offset" | "text" | "print_file_and_line" | "end_lineno" | "end_offset" =>
    if belongs "SyntaxError" then some .absent else none
  | _ => none

end SheetExport.Annotation
