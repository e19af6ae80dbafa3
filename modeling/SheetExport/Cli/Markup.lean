/-
**What a console shows of a plain text.**

A console reads tags in brackets as markup, so a text that is to be shown as it is gets its tags
protected first. `shown` is what remains after both steps: tags stay, but a backslash before a
bracket that begins no tag is lost, a single backslash at the end is doubled, and control characters
that would move the cursor are left out.
-/

namespace SheetExport.Cli

/-! ### Tags -/

/-- A character that a tag can begin with. -/
def isTagStart (c : Char) : Bool := ('a' ≤ c && c ≤ 'z') || c = '#' || c = '/' || c = '@'

/-- Begins with a tag, when a bracket stands before: a closing bracket comes before the next
opening one. -/
def beginsTag : List Char → Bool
  | first :: cs => isTagStart first && (cs.find? fun c => c = '[' || c = ']') = some ']'
  | [] => false

/-- A text divided by its tags and by the backslashes before them. Each piece stands alone; the
characters of the piece that is not finished yet come last first. -/
def piecesAfter : List Char → Bool → List Char → List (List Char)
  | piece, _, [] => [piece.reverse]
  | piece, inTag, c :: cs =>
    if c = '[' && beginsTag cs then
      (piece.dropWhile (· = '\\')).reverse :: (piece.takeWhile (· = '\\')).reverse ::
        piecesAfter [c] true cs
    else if inTag && c = ']' then (c :: piece).reverse :: piecesAfter [] false cs
    else piecesAfter (c :: piece) inTag cs

/-- A text divided by its tags and by the backslashes before them. -/
def pieces (cs : List Char) : List (List Char) := piecesAfter [] false cs

/-- Dividing a text loses nothing of the piece that is not finished, nor of the rest. -/
theorem flatten_piecesAfter (piece : List Char) (inTag : Bool) (cs : List Char) :
    (piecesAfter piece inTag cs).flatten = piece.reverse ++ cs := by
  induction cs generalizing piece inTag with
  | nil => simp [piecesAfter]
  | cons c cs ih =>
    rw [piecesAfter]
    split
    · rw [List.flatten_cons, List.flatten_cons, ih, ← List.append_assoc, ← List.reverse_append,
        List.takeWhile_append_dropWhile]
      rfl
    · split
      · rw [List.flatten_cons, ih]
        simp
      · rw [ih]
        simp

/-- Dividing a text loses nothing. -/
theorem flatten_pieces (cs : List Char) : (pieces cs).flatten = cs :=
  flatten_piecesAfter [] false cs

/-! ### Backslashes -/

/-- A text without the backslashes before brackets. -/
def withoutProtection : List Char → List Char
  | '\\' :: '[' :: cs => '[' :: withoutProtection cs
  | c :: cs => c :: withoutProtection cs
  | [] => []

/-- A text with the backslash at its end doubled, if it is a single one. -/
def withDoubledEnd (cs : List Char) : List Char :=
  match cs.reverse with
  | '\\' :: '\\' :: _ => cs
  | '\\' :: _ => cs ++ ['\\']
  | _ => cs

/-! ### Texts -/

/-- A bell, or a character that moves the cursor within a line or by lines. -/
def isCursorControl (c : Char) : Bool :=
  c.toNat = 7 || c.toNat = 8 || (11 ≤ c.toNat && c.toNat ≤ 13)

/-- What a console shows of a plain text. -/
def shown (s : String) : String :=
  let visible := (pieces (withDoubledEnd s.toList)).flatMap withoutProtection
  String.ofList (visible.filter (!isCursorControl ·))

end SheetExport.Cli
