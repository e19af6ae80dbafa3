/-
**The texts of meanings.**

Messages show a meaning as it is written in code (`Meaning.shown`), and parts of types by the names
of their classes alone. A text displays itself, and so does an error with what it was made of
(`Meaning.display`).
-/

import SheetExport.Annotation.Key

namespace SheetExport.Annotation

namespace Meaning

/-- Items in brackets; a tuple of one has a comma after it. -/
def tupleText (items : List String) : String :=
  match items with
  | [only] => "(" ++ only ++ ",)"
  | _ => "(" ++ ", ".intercalate items ++ ")"

/-- Items by their names in brackets. -/
def labelledText (type : String) (names items : List String) : String :=
  type ++ "(" ++ ", ".intercalate ((names.zip items).map fun (n, m) => n ++ "=" ++ m) ++ ")"

/-- A name with what it is applied to. -/
def appliedText (name : String) (arguments : List String) : String :=
  name ++ "[" ++ (if arguments.isEmpty then "()" else ", ".intercalate arguments) ++ "]"

/-- Keys and values that come by turns, as they stand in a dictionary. -/
def pairTexts : List String → List String
  | k :: v :: rest => (k ++ ": " ++ v) :: pairTexts rest
  | _ => []

/-- The text of a collection of items with the given texts. -/
def collectionText (kind : Collection) (items : List String) : String :=
  match kind, items with
  | .list, _ => "[" ++ ", ".intercalate items ++ "]"
  | .set, [] => "set()"
  | .set, _ => "\x7b" ++ ", ".intercalate items ++ "\x7d"
  | .dictionary, _ => "\x7b" ++ ", ".intercalate (pairTexts items) ++ "\x7d"

/-- What a view shows of the texts of keys and values that come by turns. -/
def viewTexts (kind : View) : List String → List String
  | k :: v :: rest =>
    (match kind with
      | .keys => k
      | .values => v
      | .pairs => tupleText [k, v]) :: viewTexts kind rest
  | _ => []

/-- The text of bytes. -/
def bytesText (content : List UInt8) : String :=
  let cs := content.map fun b => Char.ofNat b.toNat
  let quote := Text.quoteFor cs
  let shown := fun c : Char =>
    if c.toNat < 127 then Text.quotedChar quote c else Text.codePointEscape c
  String.ofList ('b' :: quote :: cs.flatMap shown ++ [quote])

/-- The text of a range of integers. -/
def rangeText (start stop step : Int) : String :=
  "range(" ++ toString start ++ ", " ++ toString stop ++
    (if step = 1 then ")" else ", " ++ toString step ++ ")")

/-- The text of a union of types with the given texts. -/
def unionText (isPlain : Bool) (members : List String) : String :=
  let none := FieldType.noneClass.path
  if isPlain then
    " | ".intercalate (members.map fun m => if m = none then "None" else m)
  else
    match members with
    | [a, b] =>
      if a = none then appliedText Form.optional.shown [b]
      else if b = none then appliedText Form.optional.shown [a]
      else appliedText Form.union.shown [a, b]
    | _ => appliedText Form.union.shown members

/-- The text of a value of a class that was made of arguments with the given texts. -/
def madeText (c : KnownClass) (arguments : List String) : String :=
  let shown := if belongsTo c "OSError" then arguments.take 2 else arguments
  if isErrorClass c || c.path = "bytearray" then c.name ++ "(" ++ ", ".intercalate shown ++ ")"
  else if c.path = "classmethod" || c.path = "staticmethod" then
    "<" ++ c.name ++ "(" ++ ", ".intercalate shown ++ ")>"
  else "<" ++ c.path ++ " object>"

/-- The text of a function of the values of a class. -/
def descriptorText (c : KnownClass) (name : String) : String :=
  if c.name = "Fraction" then "<function Fraction." ++ name ++ ">"
  else
    (if isOperator c.name name then "<slot wrapper '" else "<method '") ++ name ++ "' of '" ++
      c.messageName ++ "' objects>"

mutual

/-- The text of a meaning, or that of a part of a type, which gives classes by their names alone. -/
def textAs (isPart : Bool) : Meaning → Except Fault String
  | value v => v.literal
  | bytes content => .ok (bytesText content)
  | tuple items => (textsAs false items).map tupleText
  | labelled type names items => (textsAs false items).map (labelledText type names)
  | collection kind _ items => (textsAs false items).map (collectionText kind)
  | frozen items =>
    (textsAs false items).map fun shown =>
      "frozenset(" ++ (if shown.isEmpty then "" else collectionText .set shown) ++ ")"
  | range start stop step => .ok (rangeText start stop step)
  | slice start stop step =>
    (textAs false start).bind fun a => (textAs false stop).bind fun b =>
      (textAs false step).map fun c => "slice" ++ tupleText [a, b, c]
  | view kind _ items =>
    (textsAs false items).map fun shown =>
      kind.type ++ "(" ++ collectionText .list (viewTexts kind shown) ++ ")"
  | stream type .. => .ok ("<" ++ type ++ " object>")
  | generator type _ title .. =>
    .ok (if type = "generator" then "<generator object " ++ title ++ ">"
      else "<" ++ type ++ " object>")
  | named c =>
    if isPart && c.make = .derived then .error (.issue .member "__module__")
    else .ok (if isPart then c.path else c.shown)
  | made c arguments => (textsAs false arguments).map (madeText c)
  | form f => .ok f.shown
  | module name =>
    .ok ("<module '" ++ name ++ (if name = "builtins" then "' (built-in)>" else "'>"))
  | reference s => .ok ("ForwardRef(" ++ Text.quoted s ++ ")")
  | union isPlain members => (textsAs true members).map (unionText isPlain)
  | annotated inner notes =>
    (textAs true inner).bind fun type =>
      (textsAs false notes).map fun shown => appliedText "typing.Annotated" (type :: shown)
  | applied origin arguments => (textsAs true arguments).map (appliedText origin.path)
  | function title .. => .ok (if isPart then title else "<function " ++ title ++ ">")
  | routine name => .ok (if isPart then name else "<built-in function " ++ name ++ ">")
  | method (named _) name => .ok ("<built-in method " ++ name ++ " of type object>")
  | method owner name =>
    .ok ("<built-in method " ++ name ++ " of " ++ owner.typeName ++ " object>")
  | descriptor c name => .ok (if isPart then c.name ++ "." ++ name else descriptorText c name)
  | other type shown _ => .ok (if isPart && type = "ellipsis" then "..." else shown)

/-- The texts of meanings, or of parts of a type. -/
def textsAs (isPart : Bool) : List Meaning → Except Fault (List String)
  | [] => .ok []
  | m :: rest =>
    (textAs isPart m).bind fun shown => (textsAs isPart rest).map (shown :: ·)

end

/-- The text of a meaning as it is written in code. -/
def shown (m : Meaning) : Except Fault String := m.textAs false

/-- The text of a value as it displays itself, and that of another meaning as it is written. -/
def displayOne : Meaning → Except Fault String
  | value v => v.display
  | m => m.shown

/-- How many errors a group of errors has. -/
def groupSize : Meaning → Nat
  | tuple items | collection _ _ items => items.length
  | _ => 0

/-- The text of an error: what it was made of. -/
def errorText (c : KnownClass) (arguments : List Meaning) : Except Fault String :=
  match arguments with
  | [] => .ok ""
  | [m] => if c.name = "KeyError" then m.shown else m.displayOne
  | [title, errors] =>
    if c.name.endsWith "ExceptionGroup" then
      let size := groupSize errors
      title.displayOne.map fun shown =>
        shown ++ " (" ++ toString size ++ " sub-exception" ++ (if size = 1 then ")" else "s)")
    else if belongsTo c "OSError" then platformText title errors none
    else (tuple [title, errors]).shown
  | number :: reason :: file :: _ =>
    if belongsTo c "OSError" then platformText number reason (some file)
    else (tuple arguments).shown
where
  platformText (number reason : Meaning) (file : Option Meaning) : Except Fault String :=
    number.displayOne.bind fun shown => reason.displayOne.bind fun words =>
      (file.elim (.ok "") fun m => m.shown.map (": " ++ ·)).map fun ending =>
        "[Errno " ++ shown ++ "] " ++ words ++ ending

/-- The text of a meaning; a text is itself, and an error what it was made of. -/
def display : Meaning → Except Fault String
  | value v => v.display
  | made c arguments => if isErrorClass c then errorText c arguments else (made c arguments).shown
  | m => m.shown

end Meaning

end SheetExport.Annotation
