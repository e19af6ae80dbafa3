/-
**Names: words that begin with no digit.**

A name is made of letters, digits, numeral letters and low lines of every script, and of the marks
on them. Many of these have variants, such as wide, mathematical or joined ones; `plainName` writes
a name in its plain form, so that all spellings of a name are one name (Unicode 14.0).
-/

import SheetExport.Text.Ranges
import SheetExport.Text.Normal
import SheetExport.Text.Word

set_option maxRecDepth 8000

namespace SheetExport.Text

/-- Word characters that no name contains: numerals and ligatures that are symbols. -/
def wordSymbolRanges : Ranges := [
  (178, 179), (185, 185), (188, 190), (890, 890), (2548, 2553), (2930, 2935), (3056, 3058),
  (3192, 3198), (3416, 3422), (3440, 3448), (3882, 3891), (4978, 4988), (6128, 6137),
  (8304, 8304), (8308, 8313), (8320, 8329), (8528, 8543), (8585, 8585), (9312, 9371),
  (9450, 9471), (10102, 10131), (11517, 11517), (11823, 11823), (12690, 12693), (12832, 12841),
  (12872, 12879), (12881, 12895), (12928, 12937), (12977, 12991), (43056, 43061), (64606, 64611),
  (65018, 65019), (65136, 65136), (65138, 65138), (65140, 65140), (65142, 65142), (65144, 65144),
  (65146, 65146), (65148, 65148), (65150, 65150), (65799, 65843), (65909, 65912), (65930, 65931),
  (66273, 66299), (66336, 66339), (67672, 67679), (67705, 67711), (67751, 67759), (67835, 67839),
  (67862, 67867), (68028, 68029), (68032, 68047), (68050, 68095), (68160, 68168), (68221, 68222),
  (68253, 68255), (68331, 68335), (68440, 68447), (68472, 68479), (68521, 68527), (68858, 68863),
  (69216, 69246), (69405, 69414), (69457, 69460), (69573, 69579), (69714, 69733), (70113, 70132),
  (71482, 71483), (71914, 71922), (72794, 72812), (73664, 73684), (93019, 93025), (93824, 93846),
  (119520, 119539), (119648, 119672), (125127, 125135), (126065, 126123), (126125, 126127),
  (126129, 126132), (126209, 126253), (126255, 126269), (127232, 127244)]

/-- Letters and numerals that no name begins with: vowel signs and joined numerals of scripts that
write them as letters. -/
def innerNameRanges : Ranges := [
  (3635, 3635), (3763, 3763), (4969, 4977), (6618, 6618), (65438, 65439)]

/-- Characters that are neither letters nor numerals and begin names. -/
def nameStartMarkRanges : Ranges := [(6277, 6278), (8472, 8472), (8494, 8494)]

/-- A word character that a name can contain. -/
def isNameWordChar (c : Char) : Bool := isWordChar c && !wordSymbolRanges.covers c.toNat

/-- A character that a name can contain. -/
def isNameChar (c : Char) : Bool := isNameWordChar c || nameMarkRanges.covers c.toNat

/-- A character that a name can begin with. -/
def isNameStart (c : Char) : Bool :=
  (isNameWordChar c && !isDecimalDigit c && !innerNameRanges.covers c.toNat) ||
    nameStartMarkRanges.covers c.toNat

/-- Every character that a name can begin with is one that it can contain. -/
theorem isNameChar_of_isNameStart {c : Char} (starts : isNameStart c = true) :
    isNameChar c = true := by
  simp only [isNameStart, Bool.or_eq_true, Bool.and_eq_true] at starts
  rcases starts with ⟨⟨word, -⟩, -⟩ | mark
  · simp [isNameChar, word]
  · simp only [nameStartMarkRanges, Ranges.covers, Bool.and_eq_true, Bool.or_eq_true,
      decide_eq_true_eq, Bool.false_eq_true, or_false] at mark
    have one : c.toNat = 6277 ∨ c.toNat = 6278 ∨ c.toNat = 8472 ∨ c.toNat = 8494 := by omega
    have covered : nameMarkRanges.covers c.toNat = true := by
      rcases one with same | same | same | same <;> rw [same] <;> decide
    simp [isNameChar, covered]

/-- A name in its plain form. -/
def plainName (cs : List Char) : String := String.ofList (normalForm cs)

end SheetExport.Text
