/-
**Functions of texts and of bytes.**

Texts are searched, cut into pieces, trimmed, filled up to a width, written in other letters, and
tested letter by letter. Bytes have most of these functions too: a byte is taken as the character of
its code, and those that are none of ASCII are no letters. `callText?` has the functions of both,
applied to the arguments at the places of their parameters.
-/

import SheetExport.Annotation.Making
import SheetExport.Text.Capital
import SheetExport.Text.Numeral

namespace SheetExport.Annotation

namespace TextKind

/-! ### Characters -/

/-- The characters as a meaning of the kind. -/
def wrap (kind : TextKind) (cs : List Char) : Meaning :=
  match kind with
  | ofText => .ofChars cs
  | ofBytes => .bytes (cs.map fun c => .ofNat c.toNat)

/-- The bytes as characters of their codes. -/
def charsOf (content : List UInt8) : List Char := content.map fun b => Char.ofNat b.toNat

/-- The characters of a meaning of the kind. -/
def letters? (kind : TextKind) (m : Meaning) : Option (List Char) :=
  match kind, m with
  | ofText, m => m.text?.map String.toList
  | ofBytes, .bytes content => some (charsOf content)
  | ofBytes, _ => none

/-- Is not that of bytes, or is one of ASCII. -/
def isKnown (kind : TextKind) (c : Char) : Bool := kind = ofText || c.toNat < 128

/-- The characters with a stroke for each that is no letter of the kind. -/
def known (kind : TextKind) (cs : List Char) : List Char :=
  cs.map fun c => if kind.isKnown c then c else '-'

/-- White space of the kind. -/
def isBlank (kind : TextKind) (c : Char) : Bool :=
  match kind with
  | ofText => Text.isBlank c
  | ofBytes => c = ' ' || (9 ≤ c.toNat && c.toNat ≤ 13)

/-- Ends a line of the kind. -/
def endsLine (kind : TextKind) (c : Char) : Bool :=
  match kind with
  | ofText => Text.endsLine c
  | ofBytes => c = '\n' || c = '\r'

/-! ### Arguments -/

/-- The characters of an argument; a text says what it asks for. -/
def part (kind : TextKind) (asked : String) (m : Meaning) : Result (List Char) :=
  match kind.letters? m, kind with
  | some cs, _ => .ok cs
  | none, ofText => refuse (asked ++ "must be str, not " ++ m.typeName)
  | none, ofBytes => refuse ("a bytes-like object is required, not '" ++ m.typeName ++ "'")

/-- The characters that are looked for; among bytes, a number is that of one. -/
def sought (kind : TextKind) (m : Meaning) : Result (List Char) :=
  match kind, m, m.integer? with
  | ofBytes, .bytes content, _ => .ok (charsOf content)
  | ofBytes, _, some n =>
    if n < 0 ∨ 256 ≤ n then .error (.invalid "byte must be in range(0, 256)")
    else .ok [Char.ofNat n.toNat]
  | ofBytes, _, none =>
    refuse ("argument should be integer or bytes-like object, not '" ++ m.typeName ++ "'")
  | ofText, _, _ => kind.part "" m

end TextKind

/-- A count of cuts or of replacements, of which there is no end if it is negative. -/
def limitOf (length : Nat) (m : Option Meaning) : Result Nat :=
  (countOr (-1) m).map fun n => if n < 0 then length + 1 else n.toNat

/-! ### Search -/

/-- The items between two bounds, and the place of the first one; nothing if it is beyond the last
one. -/
def between? {α : Type} (items : List α) (start stop : Option Meaning) :
    Result (Option (Nat × List α)) := do
  let ends := boundAmong items.length false
  let first := ((← boundOf (start.getD .absent)).elim 0 ends).toNat
  let last := ((← boundOf (stop.getD .absent)).elim (items.length : Int) ends).toNat
  let isBeyond := match (← boundOf (start.getD .absent)) with
    | some n => (items.length : Int) < n
    | none => false
  return if last < first || isBeyond then none else some (first, (items.take last).drop first)

/-- A text begins, or ends, with another one, or with one of several. -/
def isAtEdge (kind : TextKind) (name : String) (isAt : List Char → Bool) (m : Meaning) :
    Result Bool :=
  let word := if kind = .ofText then "str" else "bytes"
  match kind.letters? m, m with
  | some cs, _ => .ok (isAt cs)
  | none, .tuple parts => anyAt parts
  | none, _ =>
    refuse (name ++ " first arg must be " ++ word ++ " or a tuple of " ++ word ++ ", not " ++
      m.typeName)
where
  anyAt : List Meaning → Result Bool
    | [] => .ok false
    | p :: rest =>
      match kind.letters? p, kind with
      | some cs, _ => if isAt cs then .ok true else anyAt rest
      | none, .ofText =>
        refuse ("tuple for " ++ name ++ " must only contain str, not " ++ p.typeName)
      | none, .ofBytes => (kind.part "" p).map fun _ => false

/-- Where a part stands in a text, how often, or whether at its beginning or its end. -/
def search (kind : TextKind) (cs : List Char) (name : String) (m : Meaning)
    (start stop : Option Meaning) : Result Meaning := do
  let found ← between? cs start stop
  let inside := (found.map Prod.snd).getD []
  let edge := fun (isAt : List Char → Bool) =>
    (isAtEdge kind name (fun part => found.isSome && isAt part) m).map Meaning.truth
  if name = "startswith" then edge (·.isPrefixOf inside)
  else if name = "endswith" then edge (·.isSuffixOf inside)
  else
    let part ← kind.sought m
    if name = "count" then
      return .natural (if found.isSome then Text.occurrences part inside else 0)
    else
      let within := if name.startsWith "r" then Text.lastOccurrence? part inside
        else Text.occurrence? part inside
      match found, within with
      | some (first, _), some place => return .natural (first + place)
      | _, _ =>
        if name.endsWith "find" then return .integer (-1)
        else
          throw (.invalid (if kind = .ofText then "substring not found"
            else "subsection not found"))

/-! ### Pieces -/

/-- The pieces of a text between the places of a separator, or between white space. -/
def splitBy (kind : TextKind) (cs : List Char) (name : String) (separator most : Option Meaning) :
    Result Meaning := do
  let cuts ← limitOf cs.length most
  let fromEnd := name = "rsplit"
  let wrapped := fun (pieces : List (List Char)) => Meaning.list (pieces.map kind.wrap)
  match separator with
  | none | some .absent =>
    return wrapped (if fromEnd then Text.wordsFromEnd kind.isBlank cuts cs
      else Text.wordsOf kind.isBlank (cs.length + 1) cuts cs)
  | some m =>
    match kind.letters? m, kind with
    | some [], _ => throw (.invalid "empty separator")
    | some part, _ =>
      return wrapped (if fromEnd then Text.piecesFromEnd part cuts cs
        else Text.pieces part cuts cs)
    | none, .ofText => refuse ("must be str or None, not " ++ m.typeName)
    | none, .ofBytes => (kind.part "" m).map fun _ => .absent

/-- A text before a separator, the separator, and the text after it. -/
def partition (kind : TextKind) (cs : List Char) (name : String) (m : Meaning) :
    Result Meaning :=
  (kind.part "" m).bind fun part =>
    let three := fun (a b c : List Char) =>
      (.ok (.tuple [kind.wrap a, kind.wrap b, kind.wrap c]) : Result Meaning)
    let isLast := name = "rpartition"
    if part.isEmpty then .error (.invalid "empty separator")
    else
      match if isLast then Text.cutAtLast? part cs else Text.cutAt? part cs with
      | some (before, after) => three before part after
      | none => if isLast then three [] [] cs else three cs [] []

/-- The texts of items with a text between each two. -/
def joinItems (kind : TextKind) (cs : List Char) (items : List Meaning) : Result Meaning :=
  (collect 0 items).map fun parts => kind.wrap (cs.intercalate parts)
where
  collect (place : Nat) : List Meaning → Result (List (List Char))
    | [] => .ok []
    | m :: rest =>
      match kind.letters? m with
      | some part => (collect (place + 1) rest).map (part :: ·)
      | none =>
        let asked := if kind = .ofText then "str instance" else "a bytes-like object"
        refuse ("sequence item " ++ toString place ++ ": expected " ++ asked ++ ", " ++
          m.typeName ++ " found")

/-- A text with other parts in place of some. -/
def replaceParts (kind : TextKind) (cs : List Char) (m other : Meaning) (most : Option Meaning) :
    Result Meaning := do
  let old ← kind.part "replace() argument 1 " m
  let new ← kind.part "replace() argument 2 " other
  let count ← limitOf cs.length most
  return kind.wrap (Text.replaced old new count cs)

/-- A text without the given characters, or without white space, at its ends. -/
def stripEnds (kind : TextKind) (cs : List Char) (name : String) (m : Option Meaning) :
    Result Meaning :=
  let without := fun drop : Char → Bool =>
    let front := if name = "rstrip" then cs else cs.dropWhile drop
    kind.wrap (if name = "lstrip" then front else (front.reverse.dropWhile drop).reverse)
  match m, m.bind kind.letters?, kind with
  | none, _, _ | some .absent, _, _ => .ok (without kind.isBlank)
  | _, some dropped, _ => .ok (without dropped.contains)
  | some _, none, .ofText => refuse (name ++ " arg must be None or str")
  | some m, none, .ofBytes => (kind.part "" m).map fun _ => .absent

/-- A text without another one at its beginning or at its end. -/
def removeEdge (kind : TextKind) (cs : List Char) (name : String) (m : Meaning) :
    Result Meaning :=
  (kind.part (name ++ "() argument ") m).map fun part =>
    kind.wrap (if name = "removeprefix" then
        if part.isPrefixOf cs then cs.drop part.length else cs
      else if part.isSuffixOf cs then cs.take (cs.length - part.length) else cs)

/-! ### Widths -/

/-- The character that a text is filled up with. -/
def fillerOf (kind : TextKind) (name : String) (m : Option Meaning) : Result Char :=
  match m, m.bind kind.letters?, kind with
  | none, _, _ => .ok ' '
  | _, some [c], _ => .ok c
  | _, some _, .ofText => refuse "The fill character must be exactly one character long"
  | some m, none, .ofText =>
    refuse ("The fill character must be a unicode character, not " ++ m.typeName)
  | some m, _, .ofBytes =>
    refuse (name ++ "() argument 2 must be a byte string of length 1, not " ++ m.typeName)

/-- A text in a width of its own. -/
def justify (kind : TextKind) (cs : List Char) (name : String) (width : Meaning)
    (filler : Option Meaning) : Result Meaning := do
  let n ← countFrom width
  let c ← fillerOf kind name filler
  let room := n.toNat - cs.length
  let left := match name with
    | "ljust" => 0
    | "rjust" => room
    | _ => room / 2 + (if room % 2 = 1 && n.toNat % 2 = 1 then 1 else 0)
  if itemLimit < room then throw (.ofFault .outOfMemory)
  else return kind.wrap (List.replicate left c ++ cs ++ List.replicate (room - left) c)

/-- A text with zeros after its sign up to a width. -/
def fillZeros (kind : TextKind) (cs : List Char) (width : Meaning) : Result Meaning :=
  (countFrom width).bind fun n =>
    let room := n.toNat - cs.length
    let zeros := List.replicate (min itemLimit room) '0'
    if itemLimit < room then .error (.ofFault .outOfMemory)
    else
      match cs with
      | c :: rest => .ok (kind.wrap (if isSign c then c :: (zeros ++ rest) else zeros ++ cs))
      | [] => .ok (kind.wrap zeros)

/-! ### Letters -/

/-- A text in other letters; those of bytes that are none of ASCII stay. -/
def recased (kind : TextKind) (change : List Char → List Char) (cs : List Char) : List Char :=
  match kind with
  | .ofText => change cs
  | .ofBytes =>
    (cs.zip (change (kind.known cs))).map fun (old, new) => if kind.isKnown old then new else old

/-- Ways to write a text in other letters. -/
def casings : List (String × (List Char → List Char)) := [
  ("lower", Text.lowerWord), ("upper", Text.upperWord), ("casefold", Text.foldCase),
  ("capitalize", Text.capitalized), ("title", Text.titleWord), ("swapcase", Text.swapCase)]

/-- Is a name of something. -/
def isIdentifier : List Char → Bool
  | [] => false
  | c :: rest => Text.isNameStart c && rest.all Text.isNameChar

/-- What a text can be tested for. -/
def textTests : List (String × (List Char → Bool)) :=
  let all := fun (holds : Char → Bool) (cs : List Char) => !cs.isEmpty && cs.all holds
  [("isalnum", all Text.isLetterOrNumeral), ("isalpha", all Text.isLetter),
    ("isascii", fun cs => cs.all (·.toNat < 128)), ("isdecimal", all Text.isDecimalDigit),
    ("isdigit", all Text.isDigitLike), ("isidentifier", isIdentifier),
    ("islower", Text.isLowerText), ("isnumeric", all Text.isNumeral),
    ("isprintable", fun cs => cs.all Text.isPrintable), ("istitle", Text.isTitleText),
    ("isupper", Text.isUpperText)]

/-- What a table of characters has for one of them. -/
def translateChar (table : Meaning) (c : Char) : Result (List Char) :=
  match subscript table (.natural (Text.codeOf c)) with
  | .error defect =>
    if [ErrorKind.index, .key, .lookup].contains defect.kind then .ok [c] else .error defect
  | .ok m =>
    match m, m.text?, m.integer? with
    | .absent, _, _ => .ok []
    | _, some s, _ => .ok s.toList
    | _, none, some n =>
      if n < 0 ∨ 0x110000 ≤ n then
        .error (.invalid "character mapping must be in range(0x110000)")
      else .ok [Text.charOfCode n.toNat]
    | _, none, none => refuse "character mapping must return integer, None or str"

/-- A text with what a table has for its characters. -/
def translate (table : Meaning) (cs : List Char) : Result Meaning :=
  (cs.mapM (translateChar table)).map fun parts => .ofChars parts.flatten

/-- Bytes with what a table has for them, apart from those that are left out. -/
def translateBytes (table : Meaning) (dropped : Option Meaning) (cs : List Char) :
    Result Meaning := do
  let without ← (dropped.map (TextKind.ofBytes.part "")).getD (.ok [])
  let kept := cs.filter (!without.contains ·)
  match table with
  | .absent => return TextKind.ofBytes.wrap kept
  | _ =>
    let found ← TextKind.ofBytes.part "" table
    if found.length ≠ 256 then throw (.invalid "translation table must be 256 characters long")
    else return TextKind.ofBytes.wrap (kept.map fun c => found.getD c.toNat c)

/-! ### Digits of bytes -/

/-- The digits of bytes with a mark between groups of them, which are counted from the end, or from
the front if their size is negative. -/
def hexText (content : List UInt8) (mark : List Char) (size : Int) : String :=
  let digits := content.map fun b => Text.hexDigits 2 b.toNat
  let length := digits.length
  let isFirst := fun place : Nat =>
    place ≠ 0 && size ≠ 0 &&
      (if 0 < size then (length - place) % size.natAbs = 0 else place % size.natAbs = 0)
  String.ofList (digits.zipIdx.flatMap fun (pair, place) =>
    if isFirst place then mark ++ pair else pair)

/-- The digits of bytes. -/
def hexOf (content : List UInt8) (mark size : Option Meaning) : Result Meaning := do
  let n ← size.elim (.ok 1) indexOf
  match mark with
  | none => return .text (hexText content [] n)
  | some m =>
    match (TextKind.ofText.letters? m).or (TextKind.ofBytes.letters? m) with
    | none => refuse "sep must be str or bytes."
    | some [c] =>
      if c.toNat < 128 then return .text (hexText content [c] n)
      else throw (.invalid "sep must be ASCII.")
    | some _ => throw (.invalid "sep must be length 1.")

/-! ### All of them -/

/-- The integer of a flag. -/
def flagOf (m : Option Meaning) : Result Bool := (m.elim (.ok 0) indexOf).map fun n => n ≠ 0

/-- A text without tabs. -/
def expandTabs (kind : TextKind) (cs : List Char) (size : Option Meaning) : Result Meaning :=
  (countOr 8 size).map fun n => kind.wrap (Text.withoutTabs n.toNat 0 cs)

/-- The bytes of a text, or the text of bytes. -/
def recoded (kind : TextKind) (cs : List Char) (name : String) (encoding errors : Option Meaning) :
    Result Meaning :=
  (encodingOf name name encoding errors).bind fun (e, recovery) =>
    match kind with
    | .ofText => (ofValues (e.encode recovery (String.ofList cs))).map .bytes
    | .ofBytes =>
      (ofValues (e.decode recovery (cs.map fun c => .ofNat c.toNat))).map .text

/-- The result of a function of a text or of bytes. -/
def callText? (kind : TextKind) (cs : List Char) (name : String) (found : List (Option Meaning)) :
    Option (Result Meaning) :=
  match casings.lookup name, textTests.lookup name, name, found with
  | some change, _, _, _ => some (.ok (kind.wrap (recased kind change cs)))
  | none, some holds, "isascii", _ => some (.ok (.truth (holds cs)))
  | none, some holds, _, _ => some (.ok (.truth (holds (kind.known cs))))
  | none, none, "isspace", _ => some (.ok (.truth (!cs.isEmpty && cs.all kind.isBlank)))
  | none, none, "splitlines", [keep] =>
    some ((flagOf keep).map fun keep =>
      .list ((Text.linesFrom kind.endsLine keep [] cs).map kind.wrap))
  | none, none, "expandtabs", [size] => some (expandTabs kind cs size)
  | none, none, "split", [mark, most] | none, none, "rsplit", [mark, most] =>
    some (splitBy kind cs name mark most)
  | none, none, "partition", [some m] | none, none, "rpartition", [some m] =>
    some (partition kind cs name m)
  | none, none, "join", [some m] =>
    some (match itemsOf? m with
      | none => refuse "can only join an iterable"
      | some items => joinItems kind cs items)
  | none, none, "replace", [some m, some other, most] =>
    some (replaceParts kind cs m other most)
  | none, none, "strip", [m] | none, none, "lstrip", [m] | none, none, "rstrip", [m] =>
    some (stripEnds kind cs name m)
  | none, none, "removeprefix", [some m] | none, none, "removesuffix", [some m] =>
    some (removeEdge kind cs name m)
  | none, none, "center", [some width, filler] | none, none, "ljust", [some width, filler]
  | none, none, "rjust", [some width, filler] => some (justify kind cs name width filler)
  | none, none, "zfill", [some width] => some (fillZeros kind cs width)
  | none, none, "translate", [some table] => some (translate table cs)
  | none, none, "translate", [some table, dropped] => some (translateBytes table dropped cs)
  | none, none, "format_map", [some m] =>
    some (fillText ⟨none, fun name => subscript m (.text name)⟩ (String.ofList cs))
  | none, none, "encode", [encoding, errors] | none, none, "decode", [encoding, errors] =>
    some (recoded kind cs name encoding errors)
  | none, none, "hex", [mark, size] =>
    some (hexOf (cs.map fun c => .ofNat c.toNat) mark size)
  | none, none, _, [some m, start, stop] =>
    if isOneOf "count find index rfind rindex startswith endswith" name then
      some (search kind cs name m start stop)
    else none
  | _, _, _, _ => none

/-! ### Functions of the classes -/

/-- The keys and values of a table that stands for one key by one value. -/
def tableOfPairs (items : List Meaning) : Result (List Meaning) :=
  match items with
  | key :: value :: rest =>
    let entry : Result Meaning := match key.text?, key.integer? with
      | some s, _ =>
        match s.toList with
        | [c] => .ok (.natural (Text.codeOf c))
        | _ => .error (.invalid "string keys in translate table must be of length 1")
      | none, some n => .ok (.integer n)
      | none, none => refuse "keys in translate table must be strings or integers"
    entry.bind fun entry => (tableOfPairs rest).map fun more => entry :: value :: more
  | _ => .ok []

/-- A table of characters, made of the arguments of a call. -/
def makeTable (found : List (Option Meaning)) : Result Meaning :=
  let code := fun c : Char => Meaning.natural (Text.codeOf c)
  match found with
  | [some m, none, _] =>
    match m with
    | .collection .dictionary _ items =>
      (tableOfPairs items).map fun pairs => .dictionary (putPairs [] pairs)
    | _ => refuse "if you give only one argument to maketrans it must be a dict"
  | [some m, some other, third] =>
    match m.text?, other.text?, third.map Meaning.text? with
    | _, none, _ => refuse ("maketrans() argument 2 must be str, not " ++ other.typeName)
    | _, some _, some none =>
      refuse ("maketrans() argument 3 must be str, not " ++
        ((third.map Meaning.typeName).getD ""))
    | none, some _, _ =>
      refuse "first maketrans argument must be a string if there is a second argument"
    | some a, some b, dropped =>
      if a.length ≠ b.length then
        .error (.invalid "the first two maketrans arguments must have equal length")
      else
        let changed := (a.toList.zip b.toList).flatMap fun (x, y) => [code x, code y]
        let without := ((dropped.join).getD "").toList.flatMap fun c => [code c, .absent]
        .ok (.dictionary (putPairs [] (changed ++ without)))
  | _ => .ok .absent

/-- A table of bytes that has other ones for some of them. -/
def makeByteTable (found : List (Option Meaning)) : Result Meaning := do
  let parts ← (found.filterMap id).mapM (TextKind.ofBytes.part "")
  match parts with
  | [a, b] =>
    if a.length ≠ b.length then
      throw (.invalid "maketrans arguments must have same length")
    else
      let pairs := (a.zip b).reverse
      return TextKind.ofBytes.wrap ((List.range 256).map fun n =>
        (pairs.lookup (Char.ofNat n)).getD (Char.ofNat n))
  | _ => return .absent

/-- The bytes that pairs of digits write, with spaces between them, from a place on. -/
def readHex (place : Nat) : List Char → Result (List UInt8)
  | [] => .ok []
  | c :: cs =>
    let refusal := fun place : Nat => (.error (.invalid
      ("non-hexadecimal number found in fromhex() arg at position " ++ toString place)) :
        Result (List UInt8))
    let digit := fun c : Char => (digitOf? c).filter fun n => n < 16 && c.toNat < 128
    if TextKind.ofBytes.isBlank c then readHex (place + 1) cs
    else
      match digit c, cs with
      | none, _ => refusal place
      | some _, [] => refusal (place + 1)
      | some high, d :: rest =>
        match digit d with
        | none => refusal (place + 1)
        | some low => (readHex (place + 2) rest).map (.ofNat (16 * high + low) :: ·)

end SheetExport.Annotation
