/-
**Parts of texts: where they stand, and what is left without them.**

The functions work on lists of anything that can be compared, so that they serve texts and bytes
alike. `occurrence?` finds a part; `pieces` and `piecesFromEnd` cut at the places where it stands;
`replaced` puts something else there. `linesOf` cuts a text at its line ends.
-/

import SheetExport.Text.Ranges

namespace SheetExport.Text

variable {α : Type} [DecidableEq α]

/-! ### Finding -/

/-- What stands before the first place of a part, and what follows the part. -/
def cutAt? (part : List α) : List α → Option (List α × List α)
  | [] => if part.isEmpty then some ([], []) else none
  | c :: cs =>
    if part.isPrefixOf (c :: cs) then some ([], (c :: cs).drop part.length)
    else (cutAt? part cs).map fun (before, after) => (c :: before, after)

/-- What stands before the last place of a part, and what follows the part. -/
def cutAtLast? (part cs : List α) : Option (List α × List α) :=
  (cutAt? part.reverse cs.reverse).map fun (after, before) => (before.reverse, after.reverse)

/-- The first place of a part. -/
def occurrence? (part cs : List α) : Option Nat := (cutAt? part cs).map fun (b, _) => b.length

/-- The last place of a part. -/
def lastOccurrence? (part cs : List α) : Option Nat :=
  (cutAtLast? part cs).map fun (b, _) => b.length

/-! ### Cutting -/

/-- The pieces of a text between the places of a part, after at most so many cuts from the front. -/
def pieces (part : List α) : Nat → List α → List (List α)
  | 0, cs => [cs]
  | cuts + 1, cs =>
    match cutAt? part cs with
    | none => [cs]
    | some (before, after) => before :: pieces part cuts after

/-- The pieces of a text between the places of a part, after at most so many cuts from the end. -/
def piecesFromEnd (part : List α) (cuts : Nat) (cs : List α) : List (List α) :=
  ((pieces part.reverse cuts cs.reverse).map List.reverse).reverse

/-- How often a part stands in a text, without overlaps; the empty part stands everywhere. -/
def occurrences (part cs : List α) : Nat :=
  if part.isEmpty then cs.length + 1 else (pieces part cs.length cs).length - 1

/-- A text with another part at the first so many places of a part. -/
def replaced (part other : List α) (count : Nat) (cs : List α) : List α :=
  if part.isEmpty then between count cs
  else other.intercalate (pieces part count cs)
where
  between : Nat → List α → List α
    | 0, cs => cs
    | _ + 1, [] => other
    | n + 1, c :: cs => other ++ c :: between n cs

/-- The words of a text, the last of at most so many cuts from the front having all that is left. -/
def wordsOf (isSpace : α → Bool) : Nat → Nat → List α → List (List α)
  | 0, _, _ => []
  | fuel + 1, cuts, cs =>
    match cs.dropWhile isSpace with
    | [] => []
    | text =>
      match cuts with
      | 0 => [text]
      | cuts + 1 =>
        text.takeWhile (!isSpace ·) ::
          wordsOf isSpace fuel cuts (text.dropWhile (!isSpace ·))

/-- The words of a text, after at most so many cuts from the end. -/
def wordsFromEnd (isSpace : α → Bool) (cuts : Nat) (cs : List α) : List (List α) :=
  ((wordsOf isSpace (cs.length + 1) cuts cs.reverse).map List.reverse).reverse

/-! ### Lines -/

/-- Ends a line. -/
def endsLine (c : Char) : Bool :=
  let n := c.toNat
  (10 ≤ n && n ≤ 13) || (28 ≤ n && n ≤ 30) || n = 0x85 || n = 0x2028 || n = 0x2029

/-- The lines of a text, with what ends them or without, after the given beginning of the first
one. -/
def linesFrom (isEnd : Char → Bool) (keep : Bool) (line : List Char) :
    List Char → List (List Char)
  | [] => if line.isEmpty then [] else [line.reverse]
  | '\r' :: '\n' :: cs =>
    (line.reverse ++ if keep then ['\r', '\n'] else []) :: linesFrom isEnd keep [] cs
  | c :: cs =>
    if isEnd c then (line.reverse ++ if keep then [c] else []) :: linesFrom isEnd keep [] cs
    else linesFrom isEnd keep (c :: line) cs

/-- The lines of a text. -/
def linesOf (keep : Bool) (cs : List Char) : List (List Char) := linesFrom endsLine keep [] cs

/-! ### Tabs -/

/-- A text from a column on with spaces in place of tabs, up to the next multiple of a width. -/
def withoutTabs (width column : Nat) : List Char → List Char
  | [] => []
  | c :: cs =>
    if c = '\t' then
      let room := if width = 0 then 0 else width - column % width
      List.replicate room ' ' ++ withoutTabs width (column + room) cs
    else if c = '\n' ∨ c = '\r' then c :: withoutTabs width 0 cs
    else c :: withoutTabs width (column + 1) cs

end SheetExport.Text
