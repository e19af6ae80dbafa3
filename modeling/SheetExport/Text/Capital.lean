/-
**Capital letters: upper-casing, and the case of whole texts.**

`upperWord` writes a text in capitals, `titleWord` and `capitalized` let words or the text begin
with one, and `swapCase` exchanges the cases. The tests ask whether all letters that have a case are
of one case (`isLowerText`, `isUpperText`) or are capitals just where words begin (`isTitleText`).
-/

import SheetExport.Text.CapitalTable
import SheetExport.Text.Case

namespace SheetExport.Text

/-! ### Single characters -/

/-- A character in upper case. -/
def upperChar (c : Char) : List Char :=
  match longUppers.find? (·.1 = c.toNat) with
  | some (_, image) => image.map Char.ofNat
  | none => [mapCase upperRows c]

/-- A character at the beginning of a word. -/
def titleChar (c : Char) : List Char :=
  match longTitles.find? (·.1 = c.toNat), titleRows.findSome? (·.image? c.toNat) with
  | some (_, image), _ => image.map Char.ofNat
  | none, some n => [Char.ofNat n]
  | none, none => upperChar c

/-- Is a form for the beginning of a word, of neither case. -/
def isTitleChar (c : Char) : Bool := titleRanges.covers c.toNat

/-- Is of lower case. -/
def isLowerChar (c : Char) : Bool :=
  (upperChar c ≠ [c] && !isTitleChar c) || onlyLowerRanges.covers c.toNat

/-- Is of upper case. -/
def isUpperChar (c : Char) : Bool :=
  (lowerChar [] c [] ≠ [c] && !isTitleChar c) || onlyUpperRanges.covers c.toNat

/-- Is of upper case, or a form for the beginning of a word. -/
def isCapital (c : Char) : Bool := isUpperChar c || isTitleChar c

/-! ### Texts -/

/-- A text in upper case. -/
def upperWord (cs : List Char) : List Char := cs.flatMap upperChar

/-- The rest of a text, after the characters `before`, nearest first, with its first character at
the beginning of a word, or not. -/
def titleFrom (before : List Char) (begins : Bool) : List Char → List Char
  | [] => []
  | c :: rest =>
    (if begins then titleChar c else lowerChar before c rest) ++
      titleFrom (c :: before) (!(isLowerChar c || isCapital c)) rest

/-- A text in which every word begins with a capital, and all else is of lower case. -/
def titleWord (cs : List Char) : List Char := titleFrom [] true cs

/-- A text that begins with a capital, and all else is of lower case. -/
def capitalized : List Char → List Char
  | [] => []
  | c :: rest => titleChar c ++ lowerFrom [c] rest

/-- The rest of a text, after the characters `before`, nearest first, with cases exchanged. -/
def swapFrom (before : List Char) : List Char → List Char
  | [] => []
  | c :: rest =>
    (if isUpperChar c then lowerChar before c rest
      else if isLowerChar c then upperChar c
      else [c]) ++ swapFrom (c :: before) rest

/-- A text with upper and lower case exchanged. -/
def swapCase (cs : List Char) : List Char := swapFrom [] cs

/-! ### Tests -/

/-- Has lower-case characters and no capitals. -/
def isLowerText (cs : List Char) : Bool := cs.any isLowerChar && !cs.any isCapital

/-- Has upper-case characters and none of lower case. -/
def isUpperText (cs : List Char) : Bool :=
  cs.any isUpperChar && !cs.any fun c => isLowerChar c || isTitleChar c

/-- Capitals stand just where words begin, from a character on that is inside of a word or not. -/
def titlesFrom (inside : Bool) : List Char → Bool
  | [] => true
  | c :: rest =>
    if isCapital c then !inside && titlesFrom true rest
    else if isLowerChar c then inside && titlesFrom true rest
    else titlesFrom false rest

/-- Has words, and all begin with a capital, the only one of the word. -/
def isTitleText (cs : List Char) : Bool := cs.any isCapital && titlesFrom false cs

end SheetExport.Text
