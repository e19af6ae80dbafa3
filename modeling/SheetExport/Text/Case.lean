/-
**Lower-casing of words and case folding.**

`lowerWord` gives keywords their canonical spelling, `foldCase` the form under which texts and sheet
names are compared regardless of case. Folding is character by character, and a few characters fold
to several. Lower-casing looks around at one point only: a capital sigma that ends a word, where
characters without a case of their own do not count, becomes the final form.
-/

import SheetExport.Text.CaseTable

namespace SheetExport.Text

/-- The image of a code point under the first row that has it, else the code point itself. -/
def mapCase (rows : List CaseRow) (c : Char) : Char :=
  match rows.findSome? (·.image? c.toNat) with
  | some n => Char.ofNat n
  | none => c

/-- Case folding of one character. -/
def foldChar (c : Char) : List Char :=
  match longFolds.find? (·.1 = c.toNat) with
  | some (_, image) => image.map Char.ofNat
  | none => [mapCase foldRows c]

/-- The form in which texts that differ only in case are equal. -/
def foldCase (cs : List Char) : List Char := cs.flatMap foldChar

/-- Has case and is not skipped when looking for a character that has. -/
def isCased (c : Char) : Bool := casedRanges.covers c.toNat

/-- Is skipped when looking for a character that has case. -/
def isCaseIgnorable (c : Char) : Bool := caseIgnorableRanges.covers c.toNat

/-- The first character that is not skipped has case. -/
def startsCased (cs : List Char) : Bool :=
  match cs.dropWhile isCaseIgnorable with
  | c :: _ => isCased c
  | [] => false

/-- Lower-casing of one character between those before it, nearest first, and those after it. -/
def lowerChar (before : List Char) (c : Char) (after : List Char) : List Char :=
  if c = 'Σ' then [if startsCased before && !startsCased after then 'ς' else 'σ']
  else if c = 'İ' then ['i', Char.ofNat 0x307]
  else [mapCase lowerRows c]

/-- Lower-casing of the rest of a word, after the characters `before`, nearest first. -/
def lowerFrom (before : List Char) : List Char → List Char
  | [] => []
  | c :: rest => lowerChar before c rest ++ lowerFrom (c :: before) rest

/-- The lower-case spelling of a word. -/
def lowerWord (cs : List Char) : List Char := lowerFrom [] cs

end SheetExport.Text
