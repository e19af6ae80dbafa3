/-
**Cutting texts apart: slices, repetitions, separated parts and numbers of bytes.**

A cut position counts characters from the front, or from the end if it is negative, and a position
beyond either end is that end. A repetition by a count that is not positive is empty. A name in a
message may be limited to so many bytes of its UTF-8 form: `cut` gives the beginning that fits, and
a character that the limit splits is shown by the replacement character.
-/

namespace SheetExport.Text

/-- The characters before a cut position. -/
def before (position : Int) (cs : List Char) : List Char :=
  cs.take (if position < 0 then position + cs.length else position).toNat

/-- The characters from a cut position on. -/
def fromOn (position : Int) (cs : List Char) : List Char :=
  cs.drop (if position < 0 then position + cs.length else position).toNat

/-- A text repeated. -/
def repeated (count : Int) (cs : List Char) : List Char :=
  (List.replicate count.toNat cs).flatten

/-- The parts of a text between separators; there is one more than there are separators. -/
def parts (separator : Char) : List Char → List (List Char)
  | [] => [[]]
  | c :: cs =>
    if c = separator then [] :: parts separator cs
    else
      match parts separator cs with
      | first :: rest => (c :: first) :: rest
      | [] => [[c]]

/-- The parts of a text between separators, without empty ones at the end. -/
def leadingParts (separator : Char) (cs : List Char) : List (List Char) :=
  ((parts separator cs).reverse.dropWhile List.isEmpty).reverse

/-! ### Numbers of bytes -/

/-- The character that stands for one that cannot be shown. -/
def replacement : Char := Char.ofNat 0xFFFD

/-- The characters that fit into so many bytes. -/
def cutChars : Nat → List Char → List Char
  | _, [] => []
  | limit, c :: cs =>
    if c.utf8Size ≤ limit then c :: cutChars (limit - c.utf8Size) cs
    else if limit = 0 then [] else [replacement]

/-- A text cut to so many bytes. -/
def cut (limit : Nat) (s : String) : String :=
  if s.utf8ByteSize ≤ limit then s else String.ofList (cutChars limit s.toList)

end SheetExport.Text
