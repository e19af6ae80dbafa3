/-
**Sets of code points, given as ascending ranges.**

A character class of the library is a `Ranges` value: pairs of a first and a last code point, in
ascending order and apart from each other. `Ranges.covers` decides membership and stops at the
first range that begins beyond the point asked for; `covers_iff` says that on an ascending table
nothing is lost by stopping there.

* `isBlank` — the characters that separate tokens and that trimming removes (`strip`): the ASCII
  blanks, the four information separators, and the space and separator characters of other scripts;
* `isDecimalDigit` — the decimal digits of every script. They come in runs of ten consecutive code
  points, so a table of the zeros gives every value;
* `isDigitLike` — also superscripts, circled digits and their kind, which look like digits and start
  no number.
-/

namespace SheetExport.Text

/-- Pairs of a first and a last member, both included. -/
abbrev Ranges := List (Nat × Nat)

namespace Ranges

/-- Each range is nonempty and ends before the next one begins. -/
def Ascending : Ranges → Prop
  | [] => True
  | [(lo, hi)] => lo ≤ hi
  | (lo, hi) :: (lo', hi') :: rest => lo ≤ hi ∧ hi < lo' ∧ Ascending ((lo', hi') :: rest)

/-- Membership in a table of ascending ranges. -/
def covers : Ranges → Nat → Bool
  | [], _ => false
  | (lo, hi) :: rest, n => decide (lo ≤ n) && (decide (n ≤ hi) || covers rest n)

/-- Every range of an ascending table begins at or after the first one. -/
theorem first_le_of_mem {lo hi : Nat} {rest : Ranges} (ascending : Ascending ((lo, hi) :: rest)) :
    ∀ r ∈ rest, lo ≤ r.1 := by
  induction rest generalizing lo hi with
  | nil => intro r member; cases member
  | cons head tail ih =>
    obtain ⟨lo', hi'⟩ := head
    obtain ⟨le, lt, above⟩ := ascending
    intro r member
    rcases List.mem_cons.mp member with same | later
    · subst same; simp only; omega
    · have := ih above r later
      omega

/-- **Stopping early loses nothing:** on an ascending table, `covers` is membership in some
range. -/
theorem covers_iff {table : Ranges} (ascending : table.Ascending) (n : Nat) :
    table.covers n = true ↔ ∃ r ∈ table, r.1 ≤ n ∧ n ≤ r.2 := by
  induction table with
  | nil => simp [covers]
  | cons head rest ih =>
    obtain ⟨lo, hi⟩ := head
    have begins := first_le_of_mem ascending
    have tail : Ascending rest := by
      cases rest with
      | nil => trivial
      | cons next more => exact ascending.2.2
    simp only [covers, Bool.and_eq_true, Bool.or_eq_true, decide_eq_true_eq, ih tail, List.mem_cons]
    constructor
    · rintro ⟨le, inside | ⟨r, member, within⟩⟩
      · exact ⟨(lo, hi), Or.inl rfl, le, inside⟩
      · exact ⟨r, Or.inr member, within⟩
    · rintro ⟨r, same | member, le, ge⟩
      · subst same; exact ⟨le, Or.inl ge⟩
      · exact ⟨Nat.le_trans (begins r member) le, Or.inr ⟨r, member, le, ge⟩⟩

end Ranges

/-! ### White space -/

/-- The code points of white space. -/
def blankRanges : Ranges := [
  (9, 13), (28, 32), (133, 133), (160, 160), (5760, 5760), (8192, 8202), (8232, 8233),
  (8239, 8239), (8287, 8287), (12288, 12288)]

/-- White space. -/
def isBlank (c : Char) : Bool := blankRanges.covers c.toNat

/-- The characters without those satisfying `drop` at either end. -/
def trimBy (drop : Char → Bool) (cs : List Char) : List Char :=
  ((cs.dropWhile drop).reverse.dropWhile drop).reverse

/-- The characters without the white space at either end. -/
def strip (cs : List Char) : List Char := trimBy isBlank cs

/-- Nothing but white space. -/
def isAllBlank (cs : List Char) : Bool := cs.all isBlank

/-! ### Digits -/

/-- The runs of decimal digits, one or more times ten code points each (Unicode 14.0). -/
def decimalRanges : Ranges := [
  (48, 57), (1632, 1641), (1776, 1785), (1984, 1993), (2406, 2415), (2534, 2543), (2662, 2671),
  (2790, 2799), (2918, 2927), (3046, 3055), (3174, 3183), (3302, 3311), (3430, 3439),
  (3558, 3567), (3664, 3673), (3792, 3801), (3872, 3881), (4160, 4169), (4240, 4249),
  (6112, 6121), (6160, 6169), (6470, 6479), (6608, 6617), (6784, 6793), (6800, 6809),
  (6992, 7001), (7088, 7097), (7232, 7241), (7248, 7257), (42528, 42537), (43216, 43225),
  (43264, 43273), (43472, 43481), (43504, 43513), (43600, 43609), (44016, 44025), (65296, 65305),
  (66720, 66729), (68912, 68921), (69734, 69743), (69872, 69881), (69942, 69951), (70096, 70105),
  (70384, 70393), (70736, 70745), (70864, 70873), (71248, 71257), (71360, 71369), (71472, 71481),
  (71904, 71913), (72016, 72025), (72784, 72793), (73040, 73049), (73120, 73129), (92768, 92777),
  (92864, 92873), (93008, 93017), (120782, 120831), (123200, 123209), (123632, 123641),
  (125264, 125273), (130032, 130041)]

/-- Characters of digit value that are not decimal digits. -/
def digitSymbolRanges : Ranges := [
  (178, 179), (185, 185), (4969, 4977), (6618, 6618), (8304, 8304), (8308, 8313), (8320, 8329),
  (9312, 9320), (9332, 9340), (9352, 9360), (9450, 9450), (9461, 9469), (9471, 9471),
  (10102, 10110), (10112, 10120), (10122, 10130), (68160, 68163), (69216, 69224), (69714, 69722),
  (127232, 127242)]

/-- The value of a decimal digit. -/
def digitValue? (c : Char) : Option Nat :=
  (decimalRanges.find? fun r => r.1 ≤ c.toNat && c.toNat ≤ r.2).map
    fun r => (c.toNat - r.1) % 10

/-- A decimal digit of some script. -/
def isDecimalDigit (c : Char) : Bool := decimalRanges.covers c.toNat

/-- A decimal digit or a symbol of digit value. -/
def isDigitLike (c : Char) : Bool := isDecimalDigit c || digitSymbolRanges.covers c.toNat

/-- The number that a text of decimal digits writes. -/
def digitsValue (cs : List Char) : Nat :=
  cs.foldl (fun n c => n * 10 + (digitValue? c).getD 0) 0

end SheetExport.Text
