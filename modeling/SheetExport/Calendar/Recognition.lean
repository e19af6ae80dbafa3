/-
**Dates and times read by a pattern.**

A letter after a percent sign takes a field off the front of a text: a number with so many digits at
most, or a name of a day, of a month or of a half of the day. White space takes white space, and all
else itself, in small or large letters. Where a field could be longer or shorter, the longest one
that leaves the rest readable is taken. `recognize` makes a date and time of the fields.
-/

import SheetExport.Calendar.Pattern
import SheetExport.Text.Ranges
import SheetExport.Text.Quoted

namespace SheetExport.Calendar

/-- What keeps a text from being read by a pattern. -/
inductive RecognitionFault
  | mismatch
  | badLetter (letter : Char)
  | strayMark
  /-- Something is left after what the pattern takes. -/
  | remaining (text : String)
  | calendar (fault : CalendarFault)

/-- The wording of what keeps a text from being read by a pattern. -/
def RecognitionFault.text (s pattern : String) : RecognitionFault → String
  | mismatch =>
    "time data " ++ Text.quoted s ++ " does not match format " ++ Text.quoted pattern
  | badLetter letter =>
    "'" ++ String.singleton letter ++ "' is a bad directive in format '" ++ pattern ++ "'"
  | strayMark => "stray % in format '" ++ pattern ++ "'"
  | remaining rest => "unconverted data remains: " ++ rest
  | calendar fault => fault.text

/-! ### Fields -/

/-- Numbers with a count of digits at most, between two bounds, at the front of a text: the longest
one first. -/
def numbersAt (most least greatest : Nat) (cs : List Char) : List (Nat × List Char) :=
  ((List.range most).reverse.filterMap fun fewer =>
    readDigits? (fewer + 1) cs).filter fun (n, _) => least ≤ n && n ≤ greatest

/-- The place of a name at the front of a text, in small or large letters: the longest one first. -/
def namesAt (names : List String) (cs : List Char) : List (Nat × List Char) :=
  let found := names.zipIdx.filter fun (name, _) =>
    (name.toList.map Char.toLower).isPrefixOf (cs.map Char.toLower)
  (found.mergeSort fun a b => b.1.length ≤ a.1.length).map fun (name, place) =>
    (place, cs.drop name.length)

/-- The fields that a letter can take off the front of a text; nothing if it takes none. -/
def fieldsAt? (letter : Char) (cs : List Char) : Option (List (Nat × List Char)) :=
  let exactly := fun width : Nat => (readDigits? width cs).toList
  match letter with
  | 'Y' | 'G' => some (exactly 4)
  | 'y' => some (exactly 2)
  | 'm' => some (numbersAt 2 1 12 cs)
  | 'd' =>
    some (numbersAt 2 1 31 cs ++ match cs with
      | ' ' :: rest => numbersAt 1 1 9 rest
      | _ => [])
  | 'H' => some (numbersAt 2 0 23 cs)
  | 'I' => some (numbersAt 2 1 12 cs)
  | 'M' => some (numbersAt 2 0 59 cs)
  | 'S' => some (numbersAt 2 0 61 cs)
  | 'j' => some (numbersAt 3 1 366 cs)
  | 'f' =>
    some ((numbersAt 6 0 999999 cs).map fun (n, rest) =>
      (n * tenPow (6 + rest.length - cs.length), rest))
  | 'w' => some (numbersAt 1 0 6 cs)
  | 'u' => some (numbersAt 1 1 7 cs)
  | 'U' | 'W' => some (numbersAt 2 0 53 cs)
  | 'V' => some (numbersAt 2 0 53 cs)
  | 'a' => some (namesAt (dayNames.map shortName) cs)
  | 'A' => some (namesAt dayNames cs)
  | 'b' => some (namesAt (monthNames.map shortName) cs)
  | 'B' => some (namesAt monthNames cs)
  | 'p' => some (namesAt ["AM", "PM"] cs)
  | _ => none

/-- What a letter that stands for several fields stands for. -/
def expanded : List (Char × String) := [('c', "%a %b %d %H:%M:%S %Y"), ('x', "%m/%d/%y"),
  ('X', "%H:%M:%S")]

/-- A pattern with the letters for several fields written out, or what is wrong with it. -/
def checkPattern : List Char → Except RecognitionFault (List Char)
  | [] => .ok []
  | ['%'] => .error .strayMark
  | '%' :: letter :: rest =>
    (checkPattern rest).bind fun more =>
      match expanded.lookup letter with
      | some fields => .ok (fields.toList ++ more)
      | none =>
        if letter = '%' ∨ (fieldsAt? letter []).isSome then .ok ('%' :: letter :: more)
        else .error (.badLetter letter)
  | c :: rest => (checkPattern rest).map (c :: ·)

/-- The fields that a pattern finds at the front of a text, by their letters, and the rest. -/
def fieldsBy : Nat → List Char → List Char → Option (List (Char × Nat) × List Char)
  | 0, _, _ => none
  | _, [], cs => some ([], cs)
  | fuel + 1, '%' :: '%' :: pattern, cs =>
    match cs with
    | '%' :: rest => fieldsBy fuel pattern rest
    | _ => none
  | fuel + 1, '%' :: letter :: pattern, cs =>
    ((fieldsAt? letter cs).getD []).findSome? fun (n, rest) =>
      (fieldsBy fuel pattern rest).map fun (fields, left) => ((letter, n) :: fields, left)
  | fuel + 1, p :: pattern, cs =>
    if Text.isBlank p then
      match cs with
      | c :: _ =>
        if Text.isBlank c then
          fieldsBy fuel (pattern.dropWhile Text.isBlank) (cs.dropWhile Text.isBlank)
        else none
      | [] => none
    else
      match cs with
      | c :: rest => if c.toLower = p.toLower then fieldsBy fuel pattern rest else none
      | [] => none

/-! ### Dates and times -/

/-- The date and time that fields stand for; what is not given is that of the first day of 1900. -/
def ofFields (fields : List (Char × Nat)) : Except CalendarFault DateTime := do
  let field := fun letter : Char => fields.lookup letter
  let century := fun n : Nat => if n ≤ 68 then 2000 + n else 1900 + n
  let year := ((field 'Y').or ((field 'y').map century)).getD 1900
  let named := ((field 'b').or (field 'B')).map (· + 1)
  let month := ((field 'm').or named).getD 1
  let date ← match field 'j' with
    | some n =>
      let first ← Date.check year 1 1
      first.shifted (n - 1)
    | none => Date.check year month ((field 'd').getD 1)
  let half := fun n : Nat => n % 12 + 12 * (field 'p').getD 0
  let hour := ((field 'H').or ((field 'I').map half)).getD 0
  let time ← TimeOfDay.check hour ((field 'M').getD 0) ((field 'S').getD 0) ((field 'f').getD 0)
  return ⟨date, time⟩

/-- The date and time that a text writes by a pattern. -/
def recognize (s pattern : String) : Except RecognitionFault DateTime :=
  (checkPattern pattern.toList).bind fun checked =>
    match fieldsBy (checked.length + 1) checked s.toList with
    | none => .error .mismatch
    | some (fields, []) => (ofFields fields).mapError .calendar
    | some (_, rest) => .error (.remaining (String.ofList rest))

end SheetExport.Calendar
