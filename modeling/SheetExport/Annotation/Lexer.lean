/-
**From the text of an annotation to its tokens.**

The text of an annotation is an expression: names, keywords, numbers, quoted texts and marks.
`keywords` are the words that are no names, and `marks` the operators and brackets, longer ones
first. A quoted text with fields comes apart into its pieces, which `FormatMark` tells apart.

Blanks, line ends inside brackets and comments separate tokens. A line end outside of brackets ends
the annotation, after which only blank lines and comments may follow, and the first line that is not
blank begins at its margin. `tokenize?` fails for texts that cannot be taken apart.
-/

import SheetExport.Number.Numeral
import SheetExport.Text.CharacterName
import SheetExport.Text.Name
import SheetExport.Text.Quoted

namespace SheetExport.Annotation

/-! ### Tokens -/

/-- What a quoted text with fields is made of. -/
inductive FormatMark
  | opens | closes
  | fieldOpens | fieldCloses
  /-- How the value of a field is written: `r` and `a` write it as in code. -/
  | converts (letter : Char)
  /-- The layout of a field follows, up to its end. -/
  | laysOut
deriving Repr, DecidableEq

/-- A token of an annotation. -/
inductive Token
  | name (s : String)
  | keyword (s : String)
  | integer (n : Nat)
  | float (x : Float)
  /-- A number of imaginary units. -/
  | imaginary (x : Float)
  | text (cs : List Char)
  /-- A quoted text of bytes. -/
  | bytes (content : List UInt8)
  | format (m : FormatMark)
  | mark (s : String)

/-- The words that are no names. -/
def keywords : List String := [
  "False", "None", "True", "and", "as", "assert", "async", "await", "break", "class", "continue",
  "def", "del", "elif", "else", "except", "finally", "for", "from", "global", "if", "import", "in",
  "is", "lambda", "nonlocal", "not", "or", "pass", "raise", "return", "try", "while", "with",
  "yield"]

/-- The keywords that may follow a number at once. -/
def numberFollowers : List String := ["and", "else", "for", "if", "in", "is", "not", "or"]

/-- The token of a word. -/
def Token.ofWord (s : String) : Token := if keywords.contains s then .keyword s else .name s

/-- Operators and brackets, longer ones first. -/
def marks : List String := [
  "...", "**", "//", "<<", ">>", "<=", ">=", "==", "!=", ":=", "(", ")", "[", "]", "\x7b", "\x7d",
  ",", ":", ".", "=", "@", "|", "&", "^", "~", "<", ">", "+", "-", "*", "/", "%"]

/-- Marks that open brackets. -/
def isOpening (mark : String) : Bool := ["(", "[", "\x7b"].contains mark

/-- Marks that close brackets. -/
def isClosing (mark : String) : Bool := [")", "]", "\x7d"].contains mark

/-- The most brackets that are open at once. -/
def maxBrackets : Nat := 200

/-- How many brackets are open after a mark. -/
def bracketDepth (depth : Nat) (mark : String) : Nat :=
  if isOpening mark then depth + 1 else if isClosing mark then depth - 1 else depth

/-! ### Numbers -/

/-- The digits of a number as far as they reach, and the rest. -/
def takeDigits (isDigit : Char → Bool) (cs : List Char) : List Char × List Char :=
  let isPart := fun c => isDigit c || c = '_'
  (cs.takeWhile isPart, cs.dropWhile isPart)

/-- The value of a digit, letters counting on from ten. -/
def digitOf (c : Char) : Nat :=
  if c.isDigit then c.toNat - 48 else c.toLower.toNat - 87

/-- A number in a base of two, eight or sixteen. -/
def basedNumber? (base : Nat) (cs : List Char) : Option (Token × List Char) :=
  let isDigit := fun c : Char =>
    (c.isDigit || ('a' ≤ c.toLower && c.toLower ≤ 'f')) && digitOf c < base
  let (digits, rest) := takeDigits isDigit cs
  match withoutLowLines isDigit true digits with
  | none | some [] => none
  | some plain => some (.integer (plain.foldl (fun n c => n * base + digitOf c) 0), rest)

/-- The fraction of a number, with its point. -/
def takeFraction : List Char → List Char × List Char
  | '.' :: cs =>
    let (digits, rest) := takeDigits Char.isDigit cs
    ('.' :: digits, rest)
  | cs => ([], cs)

/-- The exponent of a number, with its mark. -/
def takeExponent (cs : List Char) : List Char × List Char :=
  match cs with
  | mark :: more =>
    let (sign, unsigned) := match more with
      | c :: rest => if isSign c then ([c], rest) else ([], more)
      | [] => ([], [])
    match takeDigits Char.isDigit unsigned with
    | (first :: digits, rest) =>
      if (mark = 'e' || mark = 'E') && first ≠ '_' then (mark :: sign ++ first :: digits, rest)
      else ([], cs)
    | ([], _) => ([], cs)
  | [] => ([], [])

/-- A decimal number; an integer does not begin with a zero unless it is one. -/
def decimalNumber? (cs : List Char) : Option (Token × List Char) :=
  let (whole, afterWhole) := takeDigits Char.isDigit cs
  let (fraction, afterFraction) := takeFraction afterWhole
  let (exponent, rest) := takeExponent afterFraction
  match withoutLowLines Char.isDigit false (whole ++ fraction ++ exponent) with
  | none => none
  | some plain =>
    match rest with
    | 'j' :: more | 'J' :: more => (readNumber? plain).map fun x => (.imaginary x, more)
    | _ =>
      if fraction.isEmpty && exponent.isEmpty then
        if plain.length > 1 && plain.head? = some '0' && plain.any (· ≠ '0') then none
        else some (.integer (Text.digitsValue plain), rest)
      else (readNumber? plain).map fun x => (.float x, rest)

/-- No word follows a number at once, apart from some keywords. -/
def endsNumber (rest : List Char) : Bool :=
  !(rest.head?.any Text.isWordChar) || numberFollowers.any fun word => word.toList.isPrefixOf rest

/-- A number. -/
def number? (cs : List Char) : Option (Token × List Char) :=
  let read := match cs with
    | '0' :: mark :: rest =>
      match mark.toLower with
      | 'x' => basedNumber? 16 rest
      | 'o' => basedNumber? 8 rest
      | 'b' => basedNumber? 2 rest
      | _ => decimalNumber? cs
    | _ => decimalNumber? cs
  read.filter fun (_, rest) => endsNumber rest

/-! ### Quoted texts -/

/-- What stands before closing quotes, and what follows them. -/
def untilQuotes (quotes : List Char) : List Char → Option (List Char × List Char)
  | [] => none
  | '\\' :: c :: cs => (untilQuotes quotes cs).map fun (body, rest) => ('\\' :: c :: body, rest)
  | c :: cs =>
    if quotes.isPrefixOf (c :: cs) then some ([], (c :: cs).drop quotes.length)
    else if c = '\n' && quotes.length = 1 then none
    else (untilQuotes quotes cs).map fun (body, rest) => (c :: body, rest)

/-- The character of a code point in hexadecimal digits. -/
def charOfHex? (digits : List Char) : Option Char :=
  match basedNumber? 16 digits with
  | some (.integer n, []) =>
    if digits.contains '_' || 0x110000 ≤ n then none else some (Text.charOfCode n)
  | _ => none

/-- The character of up to three octal digits. -/
def charOfOctal (ofBytes : Bool) (digits : List Char) : Char :=
  let n := digits.foldl (fun n c => n * 8 + digitOf c) 0
  Char.ofNat (if ofBytes then n % 256 else n)

/-- The character whose name stands in braces at the front of a text, and the rest. -/
def namedChar? : List Char → Option (Char × List Char)
  | '\x7b' :: cs =>
    match cs.dropWhile (· ≠ '\x7d') with
    | [] => none
    | _ :: rest =>
      (Text.CharacterName.ofName? (String.ofList (cs.takeWhile (· ≠ '\x7d')))).map (·, rest)
  | _ => none

/-- The character that a letter after a backslash stands for. -/
def escapeOf? : Char → Option Char
  | '\\' => some '\\'
  | '\'' => some '\''
  | '"' => some '"'
  | 'a' => some (Char.ofNat 7)
  | 'b' => some (Char.ofNat 8)
  | 't' => some '\t'
  | 'n' => some '\n'
  | 'v' => some (Char.ofNat 11)
  | 'f' => some (Char.ofNat 12)
  | 'r' => some '\r'
  | _ => none

/-- An octal digit. -/
def isOctal (c : Char) : Bool := '0' ≤ c && c ≤ '7'

/-- The character that an escape stands for, after its backslash, and the rest; nothing if it is
incomplete. Only texts of characters have escapes by names and by longer code points. -/
def escape? (ofBytes : Bool) : List Char → Option (List Char × List Char)
  | [] => none
  | '\n' :: cs => some ([], cs)
  | c :: cs =>
    let byHex := fun (count : Nat) =>
      if cs.length < count then none
      else (charOfHex? (cs.take count)).map fun c => ([c], cs.drop count)
    if c = 'x' then byHex 2
    else if !ofBytes && c = 'u' then byHex 4
    else if !ofBytes && c = 'U' then byHex 8
    else if !ofBytes && c = 'N' then (namedChar? cs).map fun (c, rest) => ([c], rest)
    else if isOctal c then
      let digits := c :: (cs.take 2).takeWhile isOctal
      some ([charOfOctal ofBytes digits], (c :: cs).drop digits.length)
    else some (((escapeOf? c).map ([·])).getD ['\\', c], cs)

/-- A text with its escapes replaced. The fuel is more than the text is long. -/
def unescapeWithin? (ofBytes : Bool) : Nat → List Char → Option (List Char)
  | 0, _ => none
  | _, [] => some []
  | _, ['\\'] => some ['\\']
  | fuel + 1, '\\' :: cs =>
    (escape? ofBytes cs).bind fun (escaped, rest) =>
      (unescapeWithin? ofBytes fuel rest).map (escaped ++ ·)
  | fuel + 1, c :: cs => (unescapeWithin? ofBytes fuel cs).map (c :: ·)

/-- A text with its escapes replaced. -/
def unescape? (ofBytes : Bool) (cs : List Char) : Option (List Char) :=
  unescapeWithin? ofBytes (cs.length + 1) cs

/-- The letters that may stand before a quoted text. -/
def isTextMark (cs : List Char) : Bool :=
  ["", "r", "u", "b", "f", "br", "rb", "fr", "rf"].contains (String.ofList (cs.map Char.toLower))

/-- A quoted text: the letters before it, and what stands between the quotes. -/
structure Quotation where
  letters : List Char
  body : List Char

/-- The quoted text at the front of a text, and the rest. -/
def quotation? (cs : List Char) : Option (Quotation × List Char) :=
  let letters := cs.takeWhile Char.isAlpha
  match cs.dropWhile Char.isAlpha with
  | [] => none
  | quote :: rest =>
    if (quote = '\'' || quote = '"') && isTextMark letters then
      let triple := List.replicate 3 quote
      let quotes := if triple.isPrefixOf (quote :: rest) then triple else [quote]
      (untilQuotes quotes ((quote :: rest).drop quotes.length)).map
        fun (body, rest) => (⟨letters, body⟩, rest)
    else none

namespace Quotation

/-- Has a letter before it. -/
def has (q : Quotation) (letter : Char) : Bool := q.letters.any (·.toLower = letter)

/-- The token of a quoted text without fields. -/
def token? (q : Quotation) : Option Token :=
  let ofBytes := q.has 'b'
  if ofBytes && q.body.any (128 ≤ ·.toNat) then none
  else
    (if q.has 'r' then some q.body else unescape? ofBytes q.body).map
      fun plain => if ofBytes then .bytes (plain.map fun c => .ofNat c.toNat) else .text plain

end Quotation

/-! ### Fields of quoted texts -/

/-- What stands before the next brace of a quoted text, and the rest. Outside of layouts, a brace
that is written twice is no brace of a field, and neither are those around the name of a character.
The fuel is more than the text is long. -/
def takeLiteral (isRaw isOuter : Bool) : Nat → List Char → List Char × List Char
  | 0, cs => ([], cs)
  | _, [] => ([], [])
  | fuel + 1, c :: cs =>
    let isBrace := fun c : Char => c = '\x7b' || c = '\x7d'
    let keep := fun (n : Nat) =>
      let (literal, rest) := takeLiteral isRaw isOuter fuel ((c :: cs).drop n)
      ((c :: cs).take n ++ literal, rest)
    match cs with
    | [] => if isBrace c then ([], [c]) else ([c], [])
    | d :: more =>
      if c = '\\' && !isRaw && d = 'N' && more.head? = some '\x7b' then
        keep (4 + (more.drop 1).length - ((more.drop 1).dropWhile (· ≠ '\x7d')).length)
      else if c = '\\' && !isRaw && !isBrace d then keep 2
      else if !isBrace c then keep 1
      else if isOuter && c = d then
        let (literal, rest) := takeLiteral isRaw isOuter fuel more
        (c :: literal, rest)
      else ([], c :: cs)

/-- The bracket that closes another one. -/
def closingOf (c : Char) : Char :=
  if c = '(' then ')' else if c = '[' then ']' else '\x7d'

/-- The expression of a field, and the rest from what ends it on. The quotes are those of a text
inside of it, and the brackets those that are open. -/
def fieldExpression : Nat → List Char → List Char → List Char → Option (List Char × List Char)
  | 0, _, _, _ => none
  | _, _, _, [] => none
  | fuel + 1, quotes, brackets, c :: cs =>
    let keep := fun (n : Nat) (quotes brackets : List Char) =>
      (fieldExpression fuel quotes brackets ((c :: cs).drop n)).map
        fun (e, rest) => ((c :: cs).take n ++ e, rest)
    let isMark := fun s : String => s.toList.contains c
    if c = '\\' then none
    else if !quotes.isEmpty then
      if quotes.isPrefixOf (c :: cs) then keep quotes.length [] brackets
      else keep 1 quotes brackets
    else if c = '\'' || c = '"' then
      let triple := List.replicate 3 c
      if triple.isPrefixOf (c :: cs) then keep 3 triple brackets else keep 1 [c] brackets
    else if c = '#' then none
    else if isMark "([\x7b" then keep 1 [] (c :: brackets)
    else if brackets.isEmpty && isMark "!:\x7d=<>" then
      if isMark "!=<>" && cs.head? = some '=' then keep 2 [] []
      else if isMark "<>" then keep 1 [] []
      else some ([], c :: cs)
    else if isMark ")]\x7d" then
      match brackets with
      | [] => none
      | innermost :: others => if closingOf innermost = c then keep 1 [] others else none
    else keep 1 [] brackets

/-- How deep fields have further fields in their layouts at most. -/
def maxFieldDepth : Nat := 2

/-- A blank within a line. -/
def isInnerBlank (c : Char) : Bool := c = ' ' || c = '\t' || c.toNat = 12

/-- A line end. -/
def isLineEnd (c : Char) : Bool := c = '\n' || c = '\r'

/-- The sign that a field shows its own expression, with the blanks after it, and the rest. -/
def takeEcho : List Char → List Char × List Char
  | '=' :: cs =>
    let isSpace := fun c => isInnerBlank c || isLineEnd c || c.toNat = 11
    ('=' :: cs.takeWhile isSpace, cs.dropWhile isSpace)
  | cs => ([], cs)

/-- How the value of a field is written, and the rest. -/
def takeConversion : List Char → Option (Option Char × List Char)
  | '!' :: c :: cs => if c = 's' || c = 'r' || c = 'a' then some (some c, cs) else none
  | '!' :: [] => none
  | cs => some (none, cs)

/-! ### Tokens -/

/-- Only blanks and comments are left. -/
def isBlankRest : Bool → List Char → Bool
  | _, [] => true
  | inComment, c :: cs =>
    if isLineEnd c then isBlankRest false cs
    else if c = '#' then isBlankRest true cs
    else (inComment || isInnerBlank c) && isBlankRest inComment cs

/-- The token at the front of a text that is no quoted text, and the rest. -/
def token? (cs : List Char) : Option (Token × List Char) :=
  match cs with
  | [] => none
  | c :: rest =>
    if c.isDigit || (c = '.' && rest.head?.any Char.isDigit) then number? cs
    else if Text.isNameStart c then
      let word := cs.takeWhile Text.isNameChar
      let rest := cs.dropWhile Text.isNameChar
      if word.all (·.toNat < 128) then some (.ofWord (String.ofList word), rest)
      else some (.name (Text.plainName word), rest)
    else
      (marks.find? fun mark => mark.toList.isPrefixOf cs).map
        fun mark => (.mark mark, cs.drop mark.length)

mutual

/-- The tokens of a text inside so many brackets. The fuel is more than the text is long. -/
def tokensWithin : Nat → Nat → List Char → Option (List Token)
  | 0, _, _ => none
  | _, _, [] => some []
  | fuel + 1, depth, c :: cs =>
    if isInnerBlank c then tokensWithin fuel depth cs
    else if c = '#' then tokensWithin fuel depth (cs.dropWhile (!isLineEnd ·))
    else if isLineEnd c then
      if depth = 0 then (if isBlankRest false cs then some [] else none)
      else tokensWithin fuel depth cs
    else if c = '\\' then
      match cs with
      | '\n' :: rest => tokensWithin fuel depth rest
      | _ => none
    else
      match quotation? (c :: cs) with
      | some (q, rest) =>
        let quoted := if q.has 'f' then (formatTokens fuel (q.has 'r') 0 q.body).map
            fun (pieces, _) => Token.format .opens :: pieces ++ [.format .closes]
          else q.token?.map ([·])
        quoted.bind fun first => (tokensWithin fuel depth rest).map (first ++ ·)
      | none =>
        match token? (c :: cs) with
        | none => none
        | some (t, rest) =>
          let inside := match t with
            | .mark mark => bracketDepth depth mark
            | _ => depth
          if maxBrackets < inside then none else (tokensWithin fuel inside rest).map (t :: ·)

/-- The tokens of a quoted text with fields, or of a layout up to its end, and the rest. -/
def formatTokens : Nat → Bool → Nat → List Char → Option (List Token × List Char)
  | 0, _, _, _ => none
  | fuel + 1, isRaw, depth, cs =>
    let (literal, rest) := takeLiteral isRaw (depth = 0) (cs.length + 1) cs
    match if isRaw then some literal else unescape? false literal with
    | none => none
    | some plain =>
      let before := if plain.isEmpty then [] else [.text plain]
      match rest with
      | '\x7b' :: rest =>
        (fieldTokens fuel isRaw depth rest).bind fun (field, rest) =>
          (formatTokens fuel isRaw depth rest).map
            fun (others, rest) => (before ++ field ++ others, rest)
      | rest => if rest.isEmpty = (depth = 0) then some (before, rest) else none

/-- The tokens of a field after its opening brace, and the rest after the closing one. -/
def fieldTokens : Nat → Bool → Nat → List Char → Option (List Token × List Char)
  | 0, _, _, _ => none
  | fuel + 1, isRaw, depth, cs =>
    if maxFieldDepth ≤ depth then none
    else
      match fieldExpression (cs.length + 1) [] [] cs with
      | none => none
      | some (e, rest) =>
        let (echo, rest) := takeEcho rest
        match takeConversion rest, tokensWithin fuel 1 e with
        | some (letter, rest), some (first :: inner) =>
          match layoutTokens fuel isRaw (depth + 1) rest with
          | some (layout, '\x7d' :: rest) =>
            let written := if letter.isNone && layout.isEmpty && !echo.isEmpty then some 'r'
              else letter
            let shown : List Token := if echo.isEmpty then [] else [.text (e ++ echo)]
            let opened : List Token := [.format .fieldOpens, .mark "("]
            let closed : List Token := .mark ")" :: written.toList.map (.format ∘ .converts)
            some (shown ++ opened ++ first :: inner ++ closed ++ layout ++ [.format .fieldCloses],
              rest)
          | _ => none
        | _, _ => none

/-- The tokens of the layout of a field, if it has one, and the rest. -/
def layoutTokens : Nat → Bool → Nat → List Char → Option (List Token × List Char)
  | 0, _, _, _ => none
  | fuel + 1, isRaw, depth, cs =>
    match cs with
    | ':' :: rest =>
      (formatTokens fuel isRaw depth rest).map
        fun (pieces, rest) => (.format .laysOut :: pieces, rest)
    | _ => some ([], cs)

end

/-- A text from its first line that is not blank on, which begins at its margin; a form feed begins
the margin anew. -/
def fromMargin : Nat → Bool → List Char → Option (List Char)
  | 0, _, _ => none
  | _, _, [] => none
  | fuel + 1, indented, c :: cs =>
    if isLineEnd c then fromMargin fuel false cs
    else if c = '#' then fromMargin fuel false (cs.dropWhile (!isLineEnd ·))
    else if isInnerBlank c then fromMargin fuel (c.toNat ≠ 12) cs
    else if indented then none
    else some (c :: cs)

/-- The tokens of a text. -/
def tokenize? (cs : List Char) : Option (List Token) :=
  (fromMargin (cs.length + 1) false cs).bind (tokensWithin (cs.length + 1) 0)

end SheetExport.Annotation
