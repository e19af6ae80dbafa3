/-
**Functions known everywhere.**

`callRoutine` has the result of a function that calls no others: numbers and texts are converted,
items are counted and added, and values are asked for their classes. For the least, the greatest and
sorted items, which can be compared by what a function makes of them, `choiceOf` and `sortingOf` read
the arguments, and `Choice.among` and `Sorting.of` have the result for keys that are known.
-/

import SheetExport.Annotation.Method

namespace SheetExport.Annotation

/-! ### Order -/

/-- What the least or the greatest of is asked for: items, what makes their keys, and what there is
if no item is. -/
structure Choice where
  items : List Meaning
  key : Option Meaning
  default : Option Meaning

/-- The items that the arguments of a call choose one of. -/
def choiceOf (name : String) (a : Arguments) : Result Choice := do
  match a.plain, a.named.find? fun (n, _) => n ≠ "key" && n ≠ "default" with
  | [], _ => refuse (name ++ " expected at least 1 argument, got 0")
  | _, some (unknown, _) =>
    refuse ("'" ++ unknown ++ "' is an invalid keyword argument for " ++ name ++ "()")
  | plain, none =>
    let key := (a.named.lookup "key").filter fun m => !(m matches .absent)
    let default := a.named.lookup "default"
    match plain with
    | [m] => return ⟨← itemsOf m, key, default⟩
    | several =>
      if default.isSome then
        refuse ("Cannot specify a default for " ++ name ++ "() with multiple positional arguments")
      else return ⟨several, key, none⟩

/-- The least or the greatest of items by their keys. -/
def Choice.among (c : Choice) (name : String) (keys : List Meaning) : Result Meaning :=
  let keyed := (keys.zip c.items).map fun (key, item) => Keyed.mk key item
  match keyed, c.default with
  | [], some m => .ok m
  | [], none => .error (.invalid (name ++ "() arg is an empty sequence"))
  | first :: rest, _ => foremost (if name = "max" then ">" else "<") first rest

/-- What is sorted: items, what makes their keys, and whether the greatest comes first. -/
structure Sorting where
  items : List Meaning
  key : Option Meaning
  descending : Bool

/-- How items are sorted, by the arguments at the places of two parameters. -/
def sortingBy (items : List Meaning) (found : List (Option Meaning)) : Result Sorting :=
  let key := (found.getD 0 none).filter fun m => !(m matches .absent)
  ((found.getD 1 none).elim (.ok 0) indexOf).map fun n => ⟨items, key, n ≠ 0⟩

/-- The parameters of functions that sort. -/
def sortSignature : Signature := .parameters ["key", "reverse"] 0 0

/-- The items that the arguments of a call sort. -/
def sortingOf (a : Arguments) : Result Sorting := do
  checkCount "sorted" 1 1 a.plain.length
  let items ← itemsOf (a.plain.headD .absent)
  sortingBy items (← sortSignature.settle "sort" "sort" { a with plain := [] })

/-- Sorted items by their keys. -/
def Sorting.of (s : Sorting) (keys : List Meaning) : Result (List Meaning) :=
  sortItems s.descending ((keys.zip s.items).map fun (key, item) => Keyed.mk key item)

/-! ### Classes -/

/-- Where values or classes are looked for among others: the name of the function, and what its second
argument has to be. -/
structure Membership where
  name : String
  asked : String
  belongs : KnownClass → Bool

/-- A value, or a class, belongs to a class, to one of several, or to a member of a union. -/
def Membership.find (test : Membership) : Nat → Meaning → Result Bool
  | 0, _ => .error .endless
  | depth + 1, m =>
    let generic := fun (name : String) =>
      (refuse (name ++ "() argument 2 cannot be a parameterized generic") : Result Bool)
    let isInstance := test.name = "isinstance"
    match m with
    | .named c =>
      if c.make = .universal && isInstance then
        refuse (c.path ++ " cannot be used with isinstance()")
      else .ok (test.belongs c)
    | .tuple classes => anyOf (test.find depth) classes
    | .union true classes =>
      anyOf (fun m => if m matches .applied .. then generic test.name else test.find depth m)
        classes
    | .union false classes =>
      anyOf (fun m => if m matches .applied .. then generic "issubclass" else test.find depth m)
        classes
    | .applied .. => generic test.name
    | .annotated .. =>
      refuse "Subscripted generics cannot be used with class and instance checks"
    | .form f => refuse (f.shown ++ " cannot be used with " ++ test.name ++ "()")
    | _ => refuse (test.name ++ "() arg 2 must be a " ++ test.asked)
where
  anyOf (holds : Meaning → Result Bool) : List Meaning → Result Bool
    | [] => .ok false
    | m :: rest => (holds m).bind fun found => if found then .ok true else anyOf holds rest

/-- How deep classes stand in tuples. -/
def membershipDepth : Nat := 1000

/-- Is a value of a class. -/
def isInstance (m c : Meaning) : Result Bool :=
  let test := Membership.mk "isinstance" "type, a tuple of types, or a union" fun c =>
    isSubclass (classOf m) c
  test.find membershipDepth c

/-- Is a class of which all values are those of another one. -/
def isDerived (m other : Meaning) : Result Bool :=
  let test := fun c => Membership.mk "issubclass" "class, a tuple of classes, or a union"
    fun other => isSubclass c other
  match m with
  | .named c => (test c).find membershipDepth other
  | .applied .. =>
    (test objectClass).find membershipDepth other |>.map fun _ => false
  | _ => refuse "issubclass() arg 1 must be a class"

/-! ### Numbers and texts -/

/-- A number in a base with the mark of the base. -/
def basedText (mark : String) (base : Nat) (n : Int) : String :=
  (if n < 0 then "-" else "") ++ mark ++ String.ofList (Nat.toDigits base n.natAbs)

/-- The character of a code. -/
def charOf (m : Meaning) : Result Meaning :=
  (indexOf m).bind fun n =>
    if twoPow 31 ≤ n.natAbs then
      .error (.issue .overflow "Python int too large to convert to C int")
    else if n < 0 ∨ 0x110000 ≤ n then .error (.invalid "chr() arg not in range(0x110000)")
    else .ok (.ofChars [Text.charOfCode n.toNat])

/-- The code of a character. -/
def codeOf (m : Meaning) : Result Meaning :=
  let ofLength := fun n : Nat => (refuse ("ord() expected a character, but string of length " ++
    toString n ++ " found") : Result Meaning)
  match m, m.text? with
  | _, some s =>
    match s.toList with
    | [c] => .ok (.natural (Text.codeOf c))
    | cs => ofLength cs.length
  | .bytes [b], none => .ok (.natural b.toNat)
  | .bytes content, none => ofLength content.length
  | _, none => refuse ("ord() expected string of length 1, but " ++ m.typeName ++ " found")

/-- The sum of items, from a start on. -/
def sumOf (m start : Meaning) : Result Meaning :=
  (itemsOf m).bind fun items =>
    match start, start.text? with
    | _, some _ => refuse "sum() can't sum strings [use ''.join(seq) instead]"
    | .bytes _, none => refuse "sum() can't sum bytes [use b''.join(seq) instead]"
    | _, none =>
      if start.typeName = "bytearray" then
        refuse "sum() can't sum bytearray [use b''.join(seq) instead]"
      else items.foldlM (operate "+") start

/-! ### Attributes -/

/-- Can be called. -/
def isCallable : Meaning → Bool
  | .named _ | .form _ | .union false _ | .annotated .. | .applied .. | .function ..
  | .routine _ | .method .. | .descriptor .. => true
  | .other type .. => type = "Quitter" || type = "_Printer" || type = "_Helper"
  | _ => false

/-- What a meaning has under a name, or what is given for it if it has nothing there. -/
def askWithDefault (m name default : Meaning) : Result Meaning :=
  match askFor m name with
  | .error defect => if defect.kind = .member then .ok default else .error defect
  | found => found

/-- A meaning has something under a name. -/
def hasName (m name : Meaning) : Result Meaning :=
  match askFor m name with
  | .ok _ => .ok (.truth true)
  | .error defect => if defect.kind = .member then .ok (.truth false) else .error defect

/-! ### Input and output -/

/-- Refuses what stands between or after the items that are shown and is no text. -/
def checkSpacing (named : List (String × Meaning)) (name : String) : Result Unit :=
  match named.lookup name with
  | none | some .absent => .ok ()
  | some m =>
    if m.text?.isSome then .ok ()
    else refuse (name ++ " must be None or a string, not " ++ m.typeName)

/-- Shows items, which has no result. -/
def printed (a : Arguments) : Result Meaning := do
  match a.named.find? fun (name, _) => !isOneOf "sep end file flush" name with
  | some (name, _) => refuse ("'" ++ name ++ "' is an invalid keyword argument for print()")
  | none =>
    match (a.named.lookup "file").filter fun m => !(m matches .absent) with
    | some m => .error (.noAttribute m.typeName "write")
    | none =>
      checkSpacing a.named "sep"
      checkSpacing a.named "end"
      return .absent

/-- There is no file of any name. -/
def openFile (m : Meaning) : Result Meaning :=
  match m.text? with
  | some s =>
    .error (.issue .missingFile ("[Errno 2] No such file or directory: " ++ Text.quoted s))
  | none =>
    if m.integer?.isSome then .error (.issue .platform "[Errno 9] Bad file descriptor")
    else
      refuse ("expected str, bytes or os.PathLike object, not " ++ m.typeName)

/-! ### All of them -/

/-- The signatures of the functions known everywhere. -/
def routineSignature (name : String) : Signature :=
  if isOneOf ("abs aiter all any ascii bin callable chr hash hex id len oct ord repr") name then
    .single
  else if isOneOf "delattr divmod hasattr isinstance issubclass" name then .between 2 2
  else if isOneOf "format iter next anext" name then .between 1 2
  else if isOneOf "globals locals" name then .nothing
  else
    match name with
    | "dir" | "vars" => .between 0 1
    | "input" => .between 0 1
    | "__import__" => .parameters (words "name globals locals fromlist level") 1 5
    | "open" =>
      .parameters (words "file mode buffering encoding errors newline closefd opener") 1 8
    | "eval" => .between 1 3
    | "getattr" => .between 2 3
    | "setattr" => .between 3 3
    | "pow" => .parameters ["base", "exp", "mod"] 2 3
    | "round" => .parameters ["number", "ndigits"] 1 2
    | "sum" => .parameters ["", "start"] 1 2
    | "compile" =>
      .parameters (words "source filename mode flags dont_inherit optimize _feature_version") 3 6
    | _ => .anything

/-- The result of a function known everywhere, with the arguments at the places of its parameters. -/
def routineResult (name : String) (found : List (Option Meaning)) : Result Meaning :=
  match name, found with
  | "abs", [some m] => magnitudeOf m
  | "repr", [some m] => (shownText m).map .text
  | "ascii", [some m] => (plainText m).map .text
  | "callable", [some m] => .ok (.truth (isCallable m))
  | "chr", [some m] => charOf m
  | "ord", [some m] => codeOf m
  | "bin", [some m] => (indexOf m).map fun n => .text (basedText "0b" 2 n)
  | "oct", [some m] => (indexOf m).map fun n => .text (basedText "0o" 8 n)
  | "hex", [some m] => (indexOf m).map fun n => .text (basedText "0x" 16 n)
  | "hash", [some m] => hashOf m
  | "id", [some m] => .ok (someKey ("id of " ++ (m.shown.toOption).getD ""))
  | "len", [some m] => lengthOf m
  | "divmod", [some a, some b] => divide a b
  | "isinstance", [some m, some c] => (isInstance m c).map .truth
  | "issubclass", [some m, some c] => (isDerived m c).map .truth
  | "getattr", [some m, some name, none] => askFor m name
  | "getattr", [some m, some name, some default] => askWithDefault m name default
  | "hasattr", [some m, some name] => hasName m name
  | "setattr", [some m, some name, _] | "delattr", [some m, some name] =>
    .error (.noAttribute m.typeName (name.text?.getD ""))
  | "format", [some m, none] => (layOut "" m).map .text
  | "format", [some m, some layout] =>
    match layout.text? with
    | some s => (layOut s m).map .text
    | none => refuse ("format() argument 2 must be str, not " ++ layout.typeName)
  | "pow", [some a, some b, none] | "pow", [some a, some b, some .absent] => operate "**" a b
  | "pow", [some a, some b, some modulus] => raise a b modulus
  | "round", [some m, places] => roundTo m places
  | "sum", [some m, start] => sumOf m (start.getD (.integer 0))
  | "dir", [some m] => .ok (.list (askableNames m))
  | "vars", [some (.named c)] => classAttribute c "__dict__"
  | "vars", [some _] => refuse "vars() argument must have __dict__ attribute"
  | "globals", _ | "locals", _ | "vars", _ => .ok (.dictionary [])
  | "dir", _ => .ok (.list [])
  | "exec", _ => .ok .absent
  | "input", _ => .error (.issue .noInput "EOF when reading a line")
  | "__import__", some m :: _ => importModule m
  | "open", some m :: _ => openFile m
  | "compile", _ => .ok (shownValue "code" "<code object <module>>")
  | _, _ => .ok someObject

/-- The result of a function known everywhere. -/
def callRoutine (name : String) (a : Arguments) : Result Meaning :=
  let total := a.plain.length + a.named.length
  if name = "print" then printed a
  else if name = "sum" && a.plain.isEmpty then
    refuse "sum() takes at least 1 positional argument (0 given)"
  else if name = "sum" && 2 < total then
    refuse ("sum() takes at most 2 arguments (" ++ toString total ++ " given)")
  else ((routineSignature name).settle name name a).bind (routineResult name)

end SheetExport.Annotation
