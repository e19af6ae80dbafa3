/-
**Names of characters.**

A character can be written by its name. `ofName?` finds it among the blocks that are named one after
the other, and among control characters and abbreviations, in any case; or it works it out: a
syllable is named for its sounds, and an ideograph for its code point, in capitals.
-/

import SheetExport.Text.CharacterNameTable

namespace SheetExport.Text.CharacterName

/-- Control characters and abbreviations of other names. -/
def aliases : List (String × Nat) := [
  ("NULL", 0), ("NUL", 0), ("ALERT", 7), ("BEL", 7), ("BACKSPACE", 8), ("BS", 8),
  ("CHARACTER TABULATION", 9), ("HORIZONTAL TABULATION", 9), ("HT", 9), ("TAB", 9),
  ("LINE FEED", 10), ("NEW LINE", 10), ("END OF LINE", 10), ("LF", 10), ("NL", 10), ("EOL", 10),
  ("LINE TABULATION", 11), ("VERTICAL TABULATION", 11), ("VT", 11), ("FORM FEED", 12), ("FF", 12),
  ("CARRIAGE RETURN", 13), ("CR", 13), ("ESCAPE", 27), ("ESC", 27), ("SP", 32), ("DELETE", 127),
  ("DEL", 127), ("NEXT LINE", 0x85), ("NBSP", 0xA0), ("SHY", 0xAD), ("ZWSP", 0x200B),
  ("ZWNJ", 0x200C), ("ZWJ", 0x200D), ("LRM", 0x200E), ("RLM", 0x200F), ("BOM", 0xFEFF),
  ("BYTE ORDER MARK", 0xFEFF)]

/-- The sounds at the beginning, in the middle and at the end of a syllable. -/
def sounds : List (List String) := [
  "G GG N D DD R M B BB S SS - J JJ C K T P H".splitOn " ",
  "A AE YA YAE EO E YEO YE O WA WAE OE YO U WEO WE WI YU EU YI I".splitOn " ",
  "- G GG GS N NJ NH D L LG LM LB LS LT LP LH M B BS S SS NG J C K T P H".splitOn " "]

/-- A sound without the mark that stands for none. -/
def sound (s : String) : String := if s = "-" then "" else s

/-- The syllable whose sounds make a name. -/
def syllable? (name : String) : Option Char :=
  match sounds with
  | [firsts, middles, lasts] =>
    let parts := firsts.zipIdx.flatMap fun (first, i) => middles.zipIdx.flatMap fun (middle, j) =>
      lasts.zipIdx.map fun (last, k) =>
        (sound first ++ sound middle ++ sound last, (i * 21 + j) * 28 + k)
    (parts.lookup name).map fun n => Char.ofNat (0xAC00 + n)
  | _ => none

/-- The value of a digit of a code point. -/
def hexDigit? (c : Char) : Option Nat :=
  if '0' ≤ c && c ≤ '9' then some (c.toNat - '0'.toNat)
  else if 'A' ≤ c && c ≤ 'F' then some (c.toNat - 'A'.toNat + 10)
  else none

/-- The ideograph of a code point in capital digits. -/
def ideograph? (digits : String) : Option Char :=
  let ranges := [(0x3400, 0x4DBF), (0x4E00, 0x9FFF), (0x20000, 0x2A6DF), (0x2A700, 0x2B738),
    (0x2B740, 0x2B81D), (0x2B820, 0x2CEA1), (0x2CEB0, 0x2EBE0), (0x30000, 0x3134A)]
  let cs := digits.toList
  let code := cs.foldlM (fun n c => (hexDigit? c).map (n * 16 + ·)) 0
  if cs.length < 4 ∨ 5 < cs.length then none
  else
    code.bind fun n =>
      if ranges.any fun (first, last) => first ≤ n && n ≤ last then some (Char.ofNat n) else none

/-- What follows a beginning of a text. -/
def after? (beginning s : String) : Option String :=
  if s.startsWith beginning then some (String.ofList (s.toList.drop beginning.length)) else none

/-- The character of a name. -/
def ofName? (name : String) : Option Char :=
  let capitals := name.toUpper
  let listed := blocks.findSome? fun (first, names) =>
    ((names.splitOn ";").findIdx? (· = capitals)).map fun n => Char.ofNat (first + n)
  let other := (aliases.lookup capitals).map Char.ofNat
  (listed.or other).or
    (((after? "HANGUL SYLLABLE " name).bind syllable?).or
      ((after? "CJK UNIFIED IDEOGRAPH-" name).bind ideograph?))

/-- The name of a character, if it is one of those listed. -/
def of? (c : Char) : Option String :=
  blocks.findSome? fun (first, names) =>
    if first ≤ c.toNat then (names.splitOn ";")[c.toNat - first]? else none

end SheetExport.Text.CharacterName
