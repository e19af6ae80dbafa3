/-
**Texts as bytes.**

An `Encoding` writes texts as bytes (`Encoding.encode`) and reads them back (`Encoding.decode`). What
it cannot write or read is handled as a `Recovery` says: it is left out, replaced, written by its
code, or a fault.
-/

import SheetExport.Text.CharacterName
import SheetExport.Value.Basic

namespace SheetExport

/-- A way to write texts as bytes. -/
inductive Encoding
  | utf8 | ascii | latin
  /-- Units of two or of four bytes, the great end first or last, after a mark or without it. -/
  | units (width : Nat) (isGreatFirst hasMark : Bool)
deriving Repr, DecidableEq

namespace Encoding

/-- The name of an encoding without case and marks between its parts. -/
def plainName (name : String) : String :=
  String.ofList ((name.toList.map Char.toLower).map fun c => if c.isAlphanum then c else '_')

/-- The names of encodings. -/
def names : List (Encoding × List String) := [
  (utf8, ["utf_8", "utf8", "u8", "utf", "utf8_ucs2", "utf8_ucs4", "cp65001"]),
  (ascii, ["ascii", "646", "us_ascii", "us", "ansi_x3_4_1968", "iso646_us", "iso_ir_6"]),
  (latin, ["latin_1", "latin1", "latin", "l1", "iso8859_1", "iso_8859_1", "iso8859", "8859",
    "cp819", "ibm819", "iso_8859_1_1987"]),
  (units 2 false true, ["utf_16", "utf16", "u16"]),
  (units 2 false false, ["utf_16_le", "utf_16le", "unicodelittleunmarked"]),
  (units 2 true false, ["utf_16_be", "utf_16be", "unicodebigunmarked"]),
  (units 4 false true, ["utf_32", "utf32", "u32"]),
  (units 4 false false, ["utf_32_le", "utf_32le"]),
  (units 4 true false, ["utf_32_be", "utf_32be"])]

/-- Codes that are none of texts. -/
def codeNames : List String :=
  ["hex", "hex_codec", "base64", "base_64", "base64_codec", "rot13", "rot_13", "zip", "zlib",
    "zlib_codec", "bz2", "bz2_codec", "uu", "uu_codec", "quopri", "quopri_codec",
    "quotedprintable", "quoted_printable"]

/-- The encoding of a name. The verb says what is to be done with it. -/
def ofName (verb name : String) : Except Fault Encoding :=
  let plain := plainName name
  if name.contains (Char.ofNat 0) then .error (.issue .value "embedded null character")
  else
    match names.find? fun (_, known) => known.contains plain with
    | some (e, _) => .ok e
    | none =>
      .error (.issue .lookup (if codeNames.contains plain then
          "'" ++ name ++ "' is not a text encoding; use codecs." ++ verb ++
            "() to handle arbitrary codecs"
        else "unknown encoding: " ++ name))

/-- The name of an encoding in messages. -/
def shownName : Encoding → String
  | utf8 => "utf-8"
  | ascii => "ascii"
  | latin => "latin-1"
  | units 2 true _ => "utf-16-be"
  | units 2 false _ => "utf-16-le"
  | units _ true _ => "utf-32-be"
  | units _ false _ => "utf-32-le"

/-! ### Recovery -/

/-- What is done with what cannot be written or read. -/
inductive Recovery
  | strict | ignore | replace
  /-- By an escape with a backslash. -/
  | escape
  /-- By a reference to a character. -/
  | reference
  /-- By an escape with the name of a character. -/
  | byName
  | unknown (name : String)
deriving Repr, DecidableEq

/-- The recovery of a name. -/
def Recovery.ofName (name : String) : Recovery :=
  match name with
  | "strict" => strict
  | "ignore" => ignore
  | "replace" => replace
  | "backslashreplace" => escape
  | "xmlcharrefreplace" => reference
  | "namereplace" => byName
  | _ => unknown name

/-- Nothing is known of a recovery. -/
def unknownRecovery {α : Type} (name : String) : Except Fault α :=
  .error (.issue .lookup ("unknown error handler name '" ++ name ++ "'"))

/-! ### Writing -/

/-- The bytes of a number, the least one first. -/
def bytesOfNumber : Nat → Nat → List UInt8
  | 0, _ => []
  | width + 1, n => .ofNat (n % 256) :: bytesOfNumber width (n / 256)

/-- A unit as bytes. -/
def unitBytes (width : Nat) (isGreatFirst : Bool) (n : Nat) : List UInt8 :=
  if isGreatFirst then (bytesOfNumber width n).reverse else bytesOfNumber width n

/-- A code point as bytes of which the first tells how many follow. -/
def utf8Bytes (code : Nat) : List UInt8 :=
  let tail := fun shift : Nat => UInt8.ofNat (0x80 + code / shift % 64)
  if code < 0x80 then [.ofNat code]
  else if code < 0x800 then [.ofNat (0xC0 + code / 64), tail 1]
  else if code < 0x10000 then [.ofNat (0xE0 + code / 4096), tail 64, tail 1]
  else [.ofNat (0xF0 + code / 262144), tail 4096, tail 64, tail 1]

/-- The bytes of a code point, if it has some. -/
def bytesOfCode? (e : Encoding) (code : Nat) : Option (List UInt8) :=
  match e with
  | ascii => if code < 128 then some [.ofNat code] else none
  | latin => if code < 256 then some [.ofNat code] else none
  | utf8 => if Text.isHalf code then none else some (utf8Bytes code)
  | units width isGreatFirst _ =>
    if Text.isHalf code then none
    else if width = 4 ∨ code < 0x10000 then some (unitBytes width isGreatFirst code)
    else
      let rest := code - 0x10000
      some (unitBytes 2 isGreatFirst (0xD800 + rest / 1024) ++
        unitBytes 2 isGreatFirst (0xDC00 + rest % 1024))

/-- Why a code point has no bytes. -/
def reason : Encoding → String
  | ascii => "ordinal not in range(128)"
  | latin => "ordinal not in range(256)"
  | _ => "surrogates not allowed"

/-- What some characters from a place on cannot be written as. -/
def unwritable (e : Encoding) (place : Nat) (bad : List Char) : Fault :=
  let where_ := match bad with
    | [c] => " character '" ++ String.ofList (Text.codePointEscape c) ++ "' in position " ++
        toString place
    | _ => " characters in position " ++ toString place ++ "-" ++
        toString (place + bad.length - 1)
  .issue .encoding ("'" ++ e.shownName ++ "' codec can't encode" ++ where_ ++ ": " ++ e.reason)

/-- What stands for characters that cannot be written. -/
def substitute (e : Encoding) (r : Recovery) (place : Nat) (bad : List Char) :
    Except Fault (List UInt8) :=
  let written := fun cs : List Char =>
    cs.flatMap fun c => (e.bytesOfCode? c.toNat).getD []
  match r with
  | .strict => .error (e.unwritable place bad)
  | .ignore => .ok []
  | .replace => .ok (written (bad.map fun _ => '?'))
  | .escape => .ok (written (bad.flatMap Text.codePointEscape))
  | .reference =>
    .ok (written (bad.flatMap fun c => ("&#" ++ toString (Text.codeOf c) ++ ";").toList))
  | .byName =>
    .ok (written (bad.flatMap fun c =>
      match Text.CharacterName.of? c with
      | some name => ("\\N\x7b" ++ name ++ "\x7d").toList
      | none => Text.codePointEscape c))
  | .unknown "surrogateescape" | .unknown "surrogatepass" => .error (e.unwritable place bad)
  | .unknown name => unknownRecovery name

/-- The bytes of the characters from a place on, with those in front that cannot be written. -/
def encodeFrom (e : Encoding) (r : Recovery) (place : Nat) (bad : List Char) :
    List Char → Except Fault (List UInt8)
  | [] => if bad.isEmpty then .ok [] else e.substitute r (place - bad.length) bad
  | c :: cs =>
    match e.bytesOfCode? (Text.codeOf c) with
    | none => encodeFrom e r (place + 1) (bad ++ [c]) cs
    | some bytes =>
      (if bad.isEmpty then .ok [] else e.substitute r (place - bad.length) bad).bind fun before =>
        (encodeFrom e r (place + 1) [] cs).map fun rest => before ++ bytes ++ rest

/-- A text as bytes. -/
def encode (e : Encoding) (r : Recovery) (s : String) : Except Fault (List UInt8) :=
  let mark := match e with
    | units width isGreatFirst true => unitBytes width isGreatFirst 0xFEFF
    | _ => []
  (e.encodeFrom r 0 [] s.toList).map (mark ++ ·)

/-! ### Reading -/

/-- What the bytes at the front are: a character of so many bytes, or so many bytes that are none. -/
inductive Step
  | char (c : Char) (length : Nat)
  | bad (length : Nat) (reason : String)

/-- How many bytes follow a first one, and the least and the greatest second one. -/
def following? (first : Nat) : Option (Nat × Nat × Nat) :=
  if first < 0xC2 then none
  else if first < 0xE0 then some (1, 0x80, 0xBF)
  else if first < 0xF0 then
    some (2, if first = 0xE0 then 0xA0 else 0x80, if first = 0xED then 0x9F else 0xBF)
  else if first < 0xF5 then
    some (3, if first = 0xF0 then 0x90 else 0x80, if first = 0xF4 then 0x8F else 0xBF)
  else none

/-- The character at the front of bytes of which the first tells how many follow. -/
def utf8Step (bytes : List Nat) : Step :=
  match bytes with
  | [] => .bad 0 ""
  | first :: rest =>
    if first < 0x80 then .char (Char.ofNat first) 1
    else
      match following? first with
      | none => .bad 1 "invalid start byte"
      | some (count, least, greatest) =>
        let fits := fun (place : Nat) (b : Nat) =>
          if place = 0 then least ≤ b && b ≤ greatest else 0x80 ≤ b && b < 0xC0
        let tail := rest.take count
        let good := (tail.zipIdx.takeWhile fun (b, place) => fits place b).length
        if good < tail.length then .bad (good + 1) "invalid continuation byte"
        else if tail.length < count then .bad (good + 1) "unexpected end of data"
        else
          let lead := if count = 1 then first - 0xC0 else if count = 2 then first - 0xE0
            else first - 0xF0
          .char (Char.ofNat (tail.foldl (fun n b => n * 64 + (b - 0x80)) lead)) (count + 1)

/-- The number that bytes write. -/
def numberOfBytes (isGreatFirst : Bool) (bytes : List Nat) : Nat :=
  (if isGreatFirst then bytes else bytes.reverse).foldl (fun n b => n * 256 + b) 0

/-- The character at the front of bytes in units. -/
def unitStep (width : Nat) (isGreatFirst : Bool) (bytes : List Nat) : Step :=
  if bytes.length < width then .bad bytes.length "truncated data"
  else
    let code := numberOfBytes isGreatFirst (bytes.take width)
    let next := numberOfBytes isGreatFirst ((bytes.drop width).take width)
    if width = 2 && 0xD800 ≤ code && code < 0xDC00 && 0xDC00 ≤ next && next < 0xE000 then
      .char (Char.ofNat (0x10000 + (code - 0xD800) * 1024 + (next - 0xDC00))) 4
    else if Text.isHalf code then .bad width "illegal encoding"
    else if 0x110000 ≤ code then .bad width "code point not in range(0x110000)"
    else .char (Char.ofNat code) width

/-- What the bytes at the front are. -/
def step (e : Encoding) (bytes : List Nat) : Step :=
  match e, bytes with
  | utf8, _ => utf8Step bytes
  | ascii, b :: _ =>
    if b < 128 then .char (Char.ofNat b) 1 else .bad 1 "ordinal not in range(128)"
  | latin, b :: _ => .char (Char.ofNat b) 1
  | units width isGreatFirst _, _ => unitStep width isGreatFirst bytes
  | _, [] => .bad 0 ""

/-- What some bytes from a place on cannot be read as. -/
def unreadable (e : Encoding) (place : Nat) (bad : List Nat) (reason : String) : Fault :=
  let where_ := match bad with
    | [b] => " byte 0x" ++ String.ofList (Text.hexDigits 2 b) ++ " in position " ++ toString place
    | _ => " bytes in position " ++ toString place ++ "-" ++ toString (place + bad.length - 1)
  .issue .byteText ("'" ++ e.shownName ++ "' codec can't decode" ++ where_ ++ ": " ++ reason)

/-- The characters of the bytes from a place on. -/
def decodeFrom (e : Encoding) (r : Recovery) : Nat → Nat → List Nat → Except Fault (List Char)
  | 0, _, _ | _, _, [] => .ok []
  | fuel + 1, place, bytes =>
    match e.step bytes with
    | .char c length => (decodeFrom e r fuel (place + length) (bytes.drop length)).map (c :: ·)
    | .bad length reason =>
      let bad := bytes.take length
      let rest := decodeFrom e r fuel (place + length) (bytes.drop length)
      match r with
      | .strict => .error (e.unreadable place bad reason)
      | .ignore => rest
      | .replace => rest.map (Char.ofNat 0xFFFD :: ·)
      | .escape => rest.map ((bad.flatMap fun b => ['\\', 'x'] ++ Text.hexDigits 2 b) ++ ·)
      | .reference | .byName =>
        .error (.issue .type "don't know how to handle UnicodeDecodeError in error callback")
      | .unknown name => unknownRecovery name

/-- Bytes as a text. -/
def decode (e : Encoding) (r : Recovery) (bytes : List UInt8) : Except Fault String :=
  let codes := bytes.map (·.toNat)
  let (e, codes) := match e with
    | units width _ true =>
      let first := numberOfBytes false (codes.take width)
      let swapped := numberOfBytes true (codes.take width)
      if first = 0xFEFF then (units width false true, codes.drop width)
      else if swapped = 0xFEFF then (units width true true, codes.drop width)
      else (e, codes)
    | _ => (e, codes)
  (e.decodeFrom r (codes.length + 1) 0 codes).map String.ofList

end Encoding

end SheetExport
