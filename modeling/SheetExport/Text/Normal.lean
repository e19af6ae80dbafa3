/-
**The plain form of characters.**

A text can be spelled in several ways: letters have variants, some characters stand for several, and
a letter with marks is one character or several in any order. `normalForm` gives all spellings one
form: every character is taken apart (`decomposed`), the marks on a character are ordered by their
classes (`orderMarks`), and what can be joined again is joined (`composed`). Syllables of Hangul are
taken apart and joined by rule, all other characters by tables.
-/

import SheetExport.Text.NormalTable

namespace SheetExport.Text

/-! ### Syllables -/

/-- A block of syllables has one for each vowel and for each final consonant or none. -/
def syllableCounts : Nat × Nat := (21, 28)

/-- The code points before the first syllable, the first leading consonant, the first vowel and the
first final consonant. -/
def syllableStart : Nat × Nat × Nat × Nat := (0xAC00, 0x1100, 0x1161, 0x11A7)

/-- A consonant, a vowel and perhaps a final consonant that a syllable is made of. -/
def syllableParts? (c : Char) : Option (List Char) :=
  let (vowels, finals) := syllableCounts
  let (first, lead, vowel, final) := syllableStart
  let index := c.toNat - first
  if first ≤ c.toNat ∧ index < 19 * vowels * finals then
    let parts := [lead + index / (vowels * finals), vowel + index % (vowels * finals) / finals]
    let last := index % finals
    some ((if last = 0 then parts else parts ++ [final + last]).map Char.ofNat)
  else none

/-- The syllable of a consonant and a vowel, or of a syllable without a final consonant and one. -/
def syllable? (a b : Char) : Option Char :=
  let (vowels, finals) := syllableCounts
  let (first, lead, vowel, final) := syllableStart
  let (m, n) := (a.toNat, b.toNat)
  if lead ≤ m ∧ m < lead + 19 ∧ vowel ≤ n ∧ n < vowel + vowels then
    some (Char.ofNat (first + ((m - lead) * vowels + (n - vowel)) * finals))
  else if first ≤ m ∧ m < first + 19 * vowels * finals ∧ (m - first) % finals = 0 ∧ final < n ∧
      n < final + finals then
    some (Char.ofNat (m + (n - final)))
  else none

/-! ### Pairs -/

/-- The character that a character and a mark are joined into. -/
def joined? (a b : Char) : Option Char :=
  match syllable? a b with
  | some c => some c
  | none =>
    compositions.findSome? fun (mark, letters, images) =>
      if mark = b then (letters.toList.zip images.toList).lookup a else none

/-- The character and the mark that a character is joined from. -/
def unjoined? (c : Char) : Option (Char × Char) :=
  compositions.findSome? fun (mark, letters, images) =>
    ((images.toList.zip letters.toList).lookup c).map fun a => (a, mark)

/-! ### Taking apart -/

/-- What a character is a variant of, or stands for. -/
def variant? (c : Char) : Option (List Char) :=
  let single := variantRuns.findSome? fun (first, images) =>
    if first ≤ c.toNat then (images.toList[c.toNat - first]?).map ([·]) else none
  match single with
  | some images => some images
  | none =>
    joinedRuns.findSome? fun (first, images) =>
      if first ≤ c.toNat then (images[c.toNat - first]?).map String.toList else none

/-- No character is joined from more than so many marks. -/
def mostMarks : Nat := 4

/-- A character taken apart, with so many marks at most. -/
def partsOf : Nat → Char → List Char
  | 0, c => [c]
  | marks + 1, c =>
    if c.toNat < 128 then [c]
    else
      match syllableParts? c, variant? c, unjoined? c with
      | some parts, _, _ => parts
      | none, some parts, _ => parts
      | none, none, some (a, mark) => partsOf marks a ++ [mark]
      | none, none, none => [c]

/-- A text with its characters taken apart. -/
def decomposed (cs : List Char) : List Char := cs.flatMap (partsOf mostMarks)

/-! ### Order of marks -/

/-- The class of a mark; other characters are of class zero. -/
def markClass (c : Char) : Nat :=
  ((markClasses.find? fun (_, marks) => marks.covers c.toNat).map Prod.fst).getD 0

/-- Puts a character before a text, or after the marks of lesser classes at its front. -/
def insertMark (c : Char) : List Char → List Char
  | [] => [c]
  | d :: ds =>
    if 0 < markClass d ∧ markClass d < markClass c then d :: insertMark c ds else c :: d :: ds

/-- A text with the marks that follow each other in the order of their classes. -/
def orderMarks (cs : List Char) : List Char := cs.foldr insertMark []

/-- Ordering neither adds a character to a text nor takes one away. -/
theorem insertMark_perm (c : Char) (cs : List Char) : (insertMark c cs).Perm (c :: cs) := by
  induction cs with
  | nil => exact .refl _
  | cons d ds ih =>
    unfold insertMark
    split
    · exact (ih.cons d).trans (.swap c d ds)
    · exact .refl _

/-- An ordered text has the characters of the text. -/
theorem orderMarks_perm (cs : List Char) : (orderMarks cs).Perm cs := by
  induction cs with
  | nil => exact .refl _
  | cons c cs ih => exact (insertMark_perm c _).trans (ih.cons c)

/-! ### Joining -/

/-- Joins a text to a character that marks may still be joined to, with the marks passed over since,
last first. A mark is passed over for good behind one of its class or of a greater one. -/
def joinTo (base : Char) (passed : List Char) : List Char → List Char
  | [] => base :: passed.reverse
  | c :: cs =>
    let reaches := passed.all fun mark => markClass mark < markClass c
    match if reaches then joined? base c else none with
    | some image => joinTo image passed cs
    | none =>
      if markClass c = 0 then base :: passed.reverse ++ joinTo c [] cs
      else joinTo base (c :: passed) cs

/-- A text with what can be joined joined; marks at its front stand alone. -/
def composed (cs : List Char) : List Char :=
  let isMark := fun c => markClass c ≠ 0
  cs.takeWhile isMark ++
    match cs.dropWhile isMark with
    | [] => []
    | base :: rest => joinTo base [] rest

/-- A text in its plain form. -/
def normalForm (cs : List Char) : List Char := composed (orderMarks (decomposed cs))

end SheetExport.Text
