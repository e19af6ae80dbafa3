/-
**Texts with gaps.**

A template has marks (`fillTemplate`) or fields in braces (`fillFields`) that the texts of values
are filled into. A mark names its value or takes the next one, and says how its text is laid out. A
field names a value, and parts of it, and may have further fields in its layout. Bytes have marks
too (`fillBytes`).
-/

import SheetExport.Annotation.Attribute
import SheetExport.Annotation.Signature
import SheetExport.Value.Layout

namespace SheetExport.Annotation

/-! ### Layouts -/

/-- A meaning in the layout that a text writes; most have none. -/
def layOut (layout : String) (m : Meaning) : Result String :=
  match m with
  | .value v => ofValues (v.layOut layout)
  | m => if layout.isEmpty then displayText m else ofValues (Value.takesNoLayout m.typeName)

/-- The text of a meaning without characters that are none of ASCII. -/
def plainText (m : Meaning) : Result String :=
  (shownText m).map fun shown => String.ofList (shown.toList.flatMap fun c =>
    if c.toNat < 128 then [c] else Text.codePointEscape c)

/-- A meaning as the letter of a conversion asks for it. -/
def converted (letter : Char) (m : Meaning) : Result Meaning :=
  match letter with
  | 's' => (displayText m).map .text
  | 'r' => (shownText m).map .text
  | 'a' => (plainText m).map .text
  | _ =>
    let named := if 32 < letter.toNat && letter.toNat < 127 then String.singleton letter
      else "\\x" ++ String.ofList (Nat.toDigits 16 letter.toNat)
    .error (.invalid ("Unknown conversion specifier " ++ named))

/-! ### Marks -/

/-- A mark of a template: the characters in front of its width, its width, its places, and its
letter. -/
structure Mark where
  flags : List Char
  isLeft : Bool
  width : Nat
  places : Option Nat
  letter : Char

/-- Texts, and bytes, which have much in common with them. -/
inductive TextKind
  | ofText | ofBytes
deriving DecidableEq

/-- The greatest width of a mark, and the most places. -/
def markLimits : Nat × Nat := (twoPow 63, twoPow 31)

/-- The key in brackets, which may have brackets of its own, and the rest; the brackets that are
open are counted. -/
def takeKey? : Nat → List Char → Option (List Char × List Char)
  | _, [] => none
  | depth, c :: cs =>
    if c = ')' && depth = 0 then some ([], cs)
    else
      let depth' := if c = ')' then depth - 1 else if c = '(' then depth + 1 else depth
      (takeKey? depth' cs).map fun (key, rest) => (c :: key, rest)

/-- The value for a mark without a key, and the values that are left. -/
def nextValue : List Meaning → Result (Meaning × List Meaning)
  | m :: rest => .ok (m, rest)
  | [] => refuse "not enough arguments for format string"

/-- A number that is given as a value, and the values that are left. -/
def takeGiven (limit : Nat) (type : String) (values : List Meaning) :
    Result (Int × List Meaning) :=
  (nextValue values).bind fun (m, rest) =>
    match m.integer? with
    | none => refuse "* wants int"
    | some n =>
      if limit ≤ n.natAbs then
        .error (.issue .overflow ("Python int too large to convert to C " ++ type))
      else .ok (n, rest)

/-- The width of a mark at the front of a text, and whether it stands on the left. -/
def takeWidth (isLeft : Bool) (cs : List Char) (values : List Meaning) :
    Result (Nat × Bool × List Char × List Meaning) :=
  match cs with
  | '*' :: rest =>
    (takeGiven markLimits.1 "ssize_t" values).map fun (n, values) =>
      (n.natAbs, isLeft || n < 0, rest, values)
  | _ =>
    let (width, rest) := takeNumber cs
    if width.any (markLimits.1 ≤ ·) then .error (.invalid "width too big")
    else .ok (width.getD 0, isLeft, rest, values)

/-- The places of a mark at the front of a text. -/
def takePlaces (cs : List Char) (values : List Meaning) :
    Result (Option Nat × List Char × List Meaning) :=
  match cs with
  | '.' :: '*' :: rest =>
    (takeGiven markLimits.2 "int" values).map fun (n, values) => (some n.toNat, rest, values)
  | '.' :: more =>
    let (places, rest) := takeNumber more
    if places.any (markLimits.2 ≤ ·) then .error (.invalid "precision too big")
    else .ok (some (places.getD 0), rest, values)
  | _ => .ok (none, cs, values)

/-- The value that a template is filled from has under a key. -/
def valueOfKeyIn (kind : TextKind) (whole : Meaning) (key : List Char) : Result Meaning :=
  let name := if kind = .ofText then Meaning.ofChars key
    else .bytes (key.map fun c => .ofNat c.toNat)
  match whole with
  | .tuple _ | .labelled .. | .value _ | .bytes _ => refuse "format requires a mapping"
  | _ =>
    match subscript whole name with
    | .error (.misuse (.notIndexable _)) => refuse "format requires a mapping"
    | found => found

/-- The mark that follows a percent sign, the rest, and the values for it. -/
def takeMark (kind : TextKind) (whole : Meaning) (cs : List Char) (values : List Meaning) :
    Result (Mark × List Char × List Meaning) := do
  let (cs, values) ← match cs with
    | '(' :: more =>
      match takeKey? 0 more with
      | none => .error (.invalid "incomplete format key")
      | some (key, rest) => (valueOfKeyIn kind whole key).map fun m => (rest, [m])
    | _ => .ok (cs, values)
  let isFlag := fun c : Char => "-+ #0".toList.contains c
  let flags := cs.takeWhile isFlag
  let (width, isLeft, cs, values) ← takeWidth (flags.contains '-') (cs.dropWhile isFlag) values
  let (places, cs, values) ← takePlaces cs values
  let cs := match cs with
    | c :: more => if "hlL".toList.contains c then more else cs
    | [] => []
  match cs with
  | [] => .error (.invalid "incomplete format")
  | letter :: rest => .ok (⟨flags, isLeft, width, places, letter⟩, rest, values)

namespace Mark

/-- A text in the field of a mark. -/
def place (mark : Mark) (cs : List Char) : List Char :=
  let room := List.replicate (mark.width - cs.length) ' '
  if mark.isLeft then cs ++ room else room ++ cs

/-- A number in the field of a mark: its sign, the name of its base, and its digits. -/
def placeNumber (mark : Mark) (negative : Bool) (base digits : List Char) : List Char :=
  let sign := if negative then ['-'] else if mark.flags.contains '+' then ['+']
    else if mark.flags.contains ' ' then [' '] else []
  let head := sign ++ base
  if mark.flags.contains '0' && !mark.isLeft then
    head ++ List.replicate (mark.width - head.length - digits.length) '0' ++ digits
  else mark.place (head ++ digits)

/-- An integer as the letter of a mark writes it. -/
def integerText (mark : Mark) (n : Int) : Result (List Char) :=
  let isDecimal := "diu".toList.contains mark.letter
  let letter := if isDecimal then 'd' else mark.letter
  if isDecimal && tenPow Value.maxDigits ≤ n.natAbs then .error (.ofFault .tooManyDigits)
  else
    let digits := (Layout.digitsBy? letter n.natAbs).getD []
    let named := mark.flags.contains '#' && !isDecimal
    let zeros := List.replicate (mark.places.getD 0 - digits.length) '0'
    .ok (mark.placeNumber (n < 0) (if named then ['0', letter] else []) (zeros ++ digits))

/-- A float as the letter of a mark writes it. -/
def floatText (mark : Mark) (x : Float) : List Char :=
  let n := styledFloat (Layout.styleOf (some mark.letter) mark.places) (mark.flags.contains '#') x
  let digits := n.whole ++ n.rest
  mark.placeNumber n.negative []
    (if mark.letter.isUpper then digits.map Char.toUpper else digits)

/-- Refuses a value that a mark does not take. -/
def refusal {α : Type} (mark : Mark) (asked type : String) : Result α :=
  refuse ("%" ++ String.singleton mark.letter ++ " format: " ++ asked ++ " is required, not " ++
    type)

/-- A number as a mark asks for it; nothing if the letter is that of no number. -/
def numberText? (mark : Mark) (m : Meaning) : Option (Result (List Char)) :=
  let letter := mark.letter
  if "diu".toList.contains letter then
    some (match m.number? with
      | none | some (.complex _) => mark.refusal "a real number" m.typeName
      | some n => (ofValues n.truncated).bind mark.integerText)
  else if "xXo".toList.contains letter then
    some (m.integer?.elim (mark.refusal "an integer" m.typeName) mark.integerText)
  else if "eEfFgG".toList.contains letter then
    let float? : Option (Except Fault Float) := match m with
      | .value (.quantity _ (some x)) => some (.ok x)
      | _ => m.number?.bind Numeric.toFloat?
    some (match float? with
      | none => refuse ("must be real number, not " ++ m.typeName)
      | some x => (ofValues x).map mark.floatText)
  else none

/-- Refuses a letter at the given place. -/
def unsupported {α : Type} (mark : Mark) (place : Nat) : Result α :=
  let c := mark.letter
  let shown := if 31 < c.toNat && c.toNat < 127 then c else '?'
  .error (.invalid ("unsupported format character '" ++ String.singleton shown ++ "' (0x" ++
    String.ofList (Nat.toDigits 16 c.toNat) ++ ") at index " ++ toString place))

/-- The text of a value as a mark asks for it. -/
def text (mark : Mark) (place : Nat) (m : Meaning) : Result (List Char) :=
  let placed := fun s : String =>
    mark.place (mark.places.elim s.toList fun n => s.toList.take n)
  match mark.letter with
  | 's' => (displayText m).map placed
  | 'r' => (shownText m).map placed
  | 'a' => (plainText m).map placed
  | 'c' =>
    match m.text?, m.integer? with
    | some s, _ =>
      if s.length = 1 then .ok (mark.place s.toList) else refuse "%c requires int or char"
    | none, some n =>
      if n < 0 ∨ 0x110000 ≤ n then .error (.issue .overflow "%c arg not in range(0x110000)")
      else .ok (mark.place [Text.charOfCode n.toNat])
    | none, none => refuse "%c requires int or char"
  | _ => (mark.numberText? m).getD (mark.unsupported place)

/-- The bytes of a value as a mark asks for them, as characters of their codes. -/
def byteText (mark : Mark) (place : Nat) (m : Meaning) : Result (List Char) :=
  let placed := fun cs : List Char => mark.place (mark.places.elim cs fun n => cs.take n)
  match mark.letter, m with
  | 's', .bytes content | 'b', .bytes content =>
    .ok (placed (content.map fun b => Char.ofNat b.toNat))
  | 's', _ | 'b', _ =>
    refuse ("%b requires a bytes-like object, or an object that implements __bytes__, not '" ++
      m.typeName ++ "'")
  | 'r', _ | 'a', _ => (plainText m).map fun s => placed s.toList
  | 'c', _ =>
    match m, m.integer? with
    | .bytes [b], _ => .ok (mark.place [Char.ofNat b.toNat])
    | _, some n =>
      if n < 0 ∨ 256 ≤ n then .error (.issue .overflow "%c arg not in range(256)")
      else .ok (mark.place [Char.ofNat n.toNat])
    | _, none => refuse "%c requires an integer in range(256) or a single byte"
  | _, _ => (mark.numberText? m).getD (mark.unsupported place)

end Mark

/-- A template of a length with its marks filled, and the values that are left. -/
def fillMarks (kind : TextKind) (length : Nat) (whole : Meaning) :
    Nat → List Char → List Meaning → Result (List Char × List Meaning)
  | 0, _, values => .ok ([], values)
  | _, [], values => .ok ([], values)
  | fuel + 1, '%' :: '%' :: cs, values =>
    (fillMarks kind length whole fuel cs values).map fun (text, rest) => ('%' :: text, rest)
  | fuel + 1, '%' :: cs, values => do
    let (mark, cs, values) ← takeMark kind whole cs values
    let (m, values) ← nextValue values
    let place := length - cs.length - 1
    let shown ← if kind = .ofText then mark.text place m else mark.byteText place m
    let (text, rest) ← fillMarks kind length whole fuel cs values
    return (shown ++ text, rest)
  | fuel + 1, c :: cs, values =>
    (fillMarks kind length whole fuel cs values).map fun (text, rest) => (c :: text, rest)

/-- Gives something for a key, so that a template need not have a mark for it. -/
def takesKeys : Meaning → Bool
  | .collection .list .. | .collection .dictionary .. | .bytes _ | .range .. | .view .. => true
  | .applied .. | .union .. | .annotated .. | .form _ => true
  | _ => false

/-- A template with its marks filled by the items of a tuple, or by another value. -/
def fillMarksOf (kind : TextKind) (cs : List Char) (m : Meaning) : Result (List Char) :=
  let (values, mayBeLeft) : List Meaning × Bool := match m with
    | .tuple items | .labelled _ _ items => (items, false)
    | .bytes _ => ([m], kind = TextKind.ofText)
    | other => ([other], takesKeys other)
  (fillMarks kind cs.length m (cs.length + 1) cs values).bind fun (text, rest) =>
    if rest.isEmpty || mayBeLeft then .ok text
    else
      let what := if kind = TextKind.ofText then "string" else "bytes"
      refuse ("not all arguments converted during " ++ what ++ " formatting")

/-- A template with its marks filled. -/
def fillTemplate (template : String) (m : Meaning) : Result Meaning :=
  (fillMarksOf .ofText template.toList m).map .ofChars

/-- Bytes with their marks filled. -/
def fillBytes (template : List UInt8) (m : Meaning) : Result Meaning :=
  (fillMarksOf .ofBytes (template.map fun b => Char.ofNat b.toNat) m).map fun cs =>
    .bytes (cs.map fun c => .ofNat c.toNat)

/-! ### Fields in braces -/

/-- How the fields of a template choose their values: one after the other, or by number. -/
inductive Numbering
  | undecided
  | inTurn (next : Nat)
  | byNumber
deriving Repr, DecidableEq

/-- What the fields of a template are filled from: values one after the other, if there are some,
and values that have names. -/
structure FieldValues where
  plain : Option (List Meaning)
  named : String → Result Meaning

/-- The field at the front of a text, after its brace: its name, its conversion, its layout, and the
rest. -/
structure Field where
  name : List Char
  conversion : Option Char
  layout : List Char
  rest : List Char

/-- The name of a field, what ends it, and the rest. Brackets in it may have anything inside. -/
def takeName (inBrackets : Bool) : List Char → Result (List Char × Option Char × List Char)
  | [] => .ok ([], none, [])
  | c :: cs =>
    let more := fun inside => (takeName inside cs).map fun (name, mark, rest) =>
      (c :: name, mark, rest)
    if inBrackets then more (c ≠ ']')
    else
      match c with
      | '{' => .error (.invalid "unexpected '\x7b' in field name")
      | '[' => more true
      | '}' | ':' | '!' => .ok ([], some c, cs)
      | _ => more false

/-- A layout up to the brace that ends its field, and the rest. -/
def takeLayout : Nat → List Char → Result (List Char × List Char)
  | _, [] => .error (.invalid "unmatched '\x7b' in format spec")
  | depth, c :: cs =>
    if c = '}' && depth = 0 then .ok ([], cs)
    else
      let depth' := if c = '{' then depth + 1 else if c = '}' then depth - 1 else depth
      (takeLayout depth' cs).map fun (layout, rest) => (c :: layout, rest)

/-- The field at the front of a text, after its brace. -/
def takeField (cs : List Char) : Result Field :=
  (takeName false cs).bind fun (name, mark, rest) =>
    let withLayout := fun (conversion : Option Char) (cs : List Char) =>
      (takeLayout 0 cs).map fun (layout, rest) => Field.mk name conversion layout rest
    match mark, rest with
    | some '}', rest => .ok ⟨name, none, [], rest⟩
    | some ':', rest => withLayout none rest
    | some '!', [] => .error (.invalid "end of string while looking for conversion specifier")
    | some '!', c :: '}' :: rest => .ok ⟨name, some c, [], rest⟩
    | some '!', c :: ':' :: rest => withLayout (some c) rest
    | some '!', [_] => .error (.invalid "unmatched '\x7b' in format spec")
    | some '!', _ => .error (.invalid "expected ':' after conversion specifier")
    | _, _ => .error (.invalid "expected '\x7d' before end of string")

/-- A number that a name is, if it is one; it may be too great. -/
def fieldNumber? (name : List Char) : Option (Result Nat) :=
  if name.isEmpty || !name.all Text.isDecimalDigit then none
  else
    let n := Text.digitsValue name
    some (if twoPow 63 ≤ n then .error (.invalid "Too many decimal digits in format string")
      else .ok n)

/-- The value of a place. -/
def valueAtPlace (values : FieldValues) (place : Nat) : Result Meaning :=
  match values.plain with
  | none => .error (.invalid "Format string contains positional fields")
  | some plain =>
    match plain[place]? with
    | some m => .ok m
    | none => .error (.emptied ("Replacement index " ++ toString place ++
        " out of range for positional args tuple"))

/-- The value that a field stands for by the name or the number in front of it. -/
def valueOfField (values : FieldValues) (n : Numbering) (name : List Char) :
    Result (Meaning × Numbering) :=
  match name, fieldNumber? name, n with
  | [], _, .byNumber =>
    .error (.invalid "cannot switch from manual field specification to automatic field numbering")
  | [], _, .inTurn next => (valueAtPlace values next).map (·, .inTurn (next + 1))
  | [], _, .undecided => (valueAtPlace values 0).map (·, .inTurn 1)
  | _, some (.error defect), _ => .error defect
  | _, some (.ok _), .inTurn _ =>
    .error (.invalid "cannot switch from automatic field numbering to manual field specification")
  | _, some (.ok place), _ => (valueAtPlace values place).map (·, .byNumber)
  | _, none, _ => (values.named (String.ofList name)).map (·, n)

/-- The parts of a value that the rest of a field's name leads to. -/
def partsOfField : Nat → List Char → Meaning → Result Meaning
  | 0, _, m | _, [], m => .ok m
  | fuel + 1, '.' :: cs, m =>
    let isEnd := fun c : Char => c = '.' || c = '['
    match cs.takeWhile (!isEnd ·) with
    | [] => .error (.invalid "Empty attribute in format string")
    | name =>
      (attributeOf (String.ofList name) m).bind (partsOfField fuel (cs.dropWhile (!isEnd ·)))
  | fuel + 1, '[' :: cs, m =>
    match cs.takeWhile (· ≠ ']'), cs.dropWhile (· ≠ ']') with
    | _, [] => .error (.invalid "Missing ']' in format string")
    | [], _ => .error (.invalid "Empty attribute in format string")
    | name, _ :: rest =>
      let key := match fieldNumber? name with
        | some n => n.map Meaning.natural
        | none => .ok (.ofChars name)
      key.bind fun key => (subscript m key).bind (partsOfField fuel rest)
  | _, _, _ =>
    .error (.invalid "Only '.' or '[' may follow ']' in format field specifier")

/-- How deep fields stand in the layouts of fields at most. -/
def fieldDepth : Nat := 2

/-- A template with its fields filled. -/
def fillFields (values : FieldValues) :
    Nat → Nat → Numbering → List Char → Result (List Char × Numbering)
  | 0, _, n, _ => .ok ([], n)
  | _, 0, _, _ => .error (.invalid "Max string recursion exceeded")
  | _, _, n, [] => .ok ([], n)
  | fuel + 1, depth + 1, n, c :: cs =>
    let literal := fun (cs : List Char) =>
      (fillFields values fuel (depth + 1) n cs).map fun (text, n) => (c :: text, n)
    match c, cs with
    | '{', '{' :: rest => literal rest
    | '}', '}' :: rest => literal rest
    | '}', _ => .error (.invalid "Single '\x7d' encountered in format string")
    | '{', [] => .error (.invalid "Single '\x7b' encountered in format string")
    | '{', _ => do
      let field ← takeField cs
      let isEnd := fun c : Char => c = '.' || c = '['
      let (first, n) ← valueOfField values n (field.name.takeWhile (!isEnd ·))
      let m ← partsOfField fuel (field.name.dropWhile (!isEnd ·)) first
      let m ← match field.conversion with
        | some letter => converted letter m
        | none => .ok m
      let (layout, n) ←
        if field.layout.contains '{' then fillFields values fuel depth n field.layout
        else .ok (field.layout, n)
      let shown ← layOut (String.ofList layout) m
      let (text, n) ← fillFields values fuel (depth + 1) n field.rest
      return (shown.toList ++ text, n)
    | _, _ => literal cs

/-- The text of a template with its fields filled. -/
def fillText (values : FieldValues) (template : String) : Result Meaning :=
  let cs := template.toList
  (fillFields values (cs.length + 1) fieldDepth .undecided cs).map fun (text, _) => .ofChars text

end SheetExport.Annotation
