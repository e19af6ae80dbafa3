/-
**Numerals of every script.**

`isNumeral` is the class of characters that have a value as a number: digits, fractions, and signs
and letters of scripts that count with them. `isLetter` leaves the numerals that are no letters out
of the word characters (Unicode 14.0).
-/

import SheetExport.Text.Ranges
import SheetExport.Text.Word

set_option maxRecDepth 8000

namespace SheetExport.Text

/-- Numerals that are no digits. -/
def numeralRanges : Ranges := [
  (188, 190), (2548, 2553), (2930, 2935), (3056, 3058), (3192, 3198), (3416, 3422), (3440, 3448),
  (3882, 3891), (4978, 4988), (5870, 5872), (6128, 6137), (8528, 8578), (8581, 8585), (9321, 9331),
  (9341, 9351), (9361, 9371), (9451, 9460), (9470, 9470), (10111, 10111), (10121, 10121),
  (10131, 10131), (11517, 11517), (12295, 12295), (12321, 12329), (12344, 12346), (12690, 12693),
  (12832, 12841), (12872, 12879), (12881, 12895), (12928, 12937), (12977, 12991), (13317, 13317),
  (13443, 13443), (14378, 14378), (15181, 15181), (19968, 19968), (19971, 19971), (19975, 19975),
  (19977, 19977), (20061, 20061), (20108, 20108), (20116, 20116), (20118, 20118), (20159, 20160),
  (20191, 20191), (20200, 20200), (20237, 20237), (20336, 20336), (20740, 20740), (20806, 20806),
  (20841, 20841), (20843, 20843), (20845, 20845), (21313, 21313), (21315, 21317), (21324, 21324),
  (21441, 21444), (22235, 22235), (22769, 22769), (22777, 22777), (24186, 24186), (24318, 24319),
  (24332, 24334), (24336, 24336), (25342, 25342), (25420, 25420), (26578, 26578), (28422, 28422),
  (29590, 29590), (30334, 30334), (32902, 32902), (33836, 33836), (36014, 36014), (36019, 36019),
  (36144, 36144), (38433, 38433), (38470, 38470), (38476, 38476), (38520, 38520), (38646, 38646),
  (42726, 42735), (43056, 43061), (63851, 63851), (63859, 63859), (63864, 63864), (63922, 63922),
  (63953, 63953), (63955, 63955), (63997, 63997), (65799, 65843), (65856, 65912), (65930, 65931),
  (66273, 66299), (66336, 66339), (66369, 66369), (66378, 66378), (66513, 66517), (67672, 67679),
  (67705, 67711), (67751, 67759), (67835, 67839), (67862, 67867), (68028, 68029), (68032, 68047),
  (68050, 68095), (68164, 68168), (68221, 68222), (68253, 68255), (68331, 68335), (68440, 68447),
  (68472, 68479), (68521, 68527), (68858, 68863), (69225, 69246), (69405, 69414), (69457, 69460),
  (69573, 69579), (69723, 69733), (70113, 70132), (71482, 71483), (71914, 71922), (72794, 72812),
  (73664, 73684), (74752, 74862), (93019, 93025), (93824, 93846), (119520, 119539),
  (119648, 119672), (125127, 125135), (126065, 126123), (126125, 126127), (126129, 126132),
  (126209, 126253), (126255, 126269), (127243, 127244), (131073, 131073), (131172, 131172),
  (131298, 131298), (131361, 131361), (133418, 133418), (133507, 133507), (133516, 133516),
  (133532, 133532), (133866, 133866), (133885, 133885), (133913, 133913), (140176, 140176),
  (141720, 141720), (146203, 146203), (156269, 156269), (194704, 194704)]

/-- Word characters that are no letters, apart from the low line. -/
def nonLetterRanges : Ranges := [
  (48, 57), (178, 179), (185, 185), (188, 190), (1632, 1641), (1776, 1785), (1984, 1993),
  (2406, 2415), (2534, 2543), (2548, 2553), (2662, 2671), (2790, 2799), (2918, 2927), (2930, 2935),
  (3046, 3058), (3174, 3183), (3192, 3198), (3302, 3311), (3416, 3422), (3430, 3448), (3558, 3567),
  (3664, 3673), (3792, 3801), (3872, 3891), (4160, 4169), (4240, 4249), (4969, 4988), (5870, 5872),
  (6112, 6121), (6128, 6137), (6160, 6169), (6470, 6479), (6608, 6618), (6784, 6793), (6800, 6809),
  (6992, 7001), (7088, 7097), (7232, 7241), (7248, 7257), (8304, 8304), (8308, 8313), (8320, 8329),
  (8528, 8578), (8581, 8585), (9312, 9371), (9450, 9471), (10102, 10131), (11517, 11517),
  (12295, 12295), (12321, 12329), (12344, 12346), (12690, 12693), (12832, 12841), (12872, 12879),
  (12881, 12895), (12928, 12937), (12977, 12991), (42528, 42537), (42726, 42735), (43056, 43061),
  (43216, 43225), (43264, 43273), (43472, 43481), (43504, 43513), (43600, 43609), (44016, 44025),
  (65296, 65305), (65799, 65843), (65856, 65912), (65930, 65931), (66273, 66299), (66336, 66339),
  (66369, 66369), (66378, 66378), (66513, 66517), (66720, 66729), (67672, 67679), (67705, 67711),
  (67751, 67759), (67835, 67839), (67862, 67867), (68028, 68029), (68032, 68047), (68050, 68095),
  (68160, 68168), (68221, 68222), (68253, 68255), (68331, 68335), (68440, 68447), (68472, 68479),
  (68521, 68527), (68858, 68863), (68912, 68921), (69216, 69246), (69405, 69414), (69457, 69460),
  (69573, 69579), (69714, 69743), (69872, 69881), (69942, 69951), (70096, 70105), (70113, 70132),
  (70384, 70393), (70736, 70745), (70864, 70873), (71248, 71257), (71360, 71369), (71472, 71483),
  (71904, 71922), (72016, 72025), (72784, 72812), (73040, 73049), (73120, 73129), (73664, 73684),
  (74752, 74862), (92768, 92777), (92864, 92873), (93008, 93017), (93019, 93025), (93824, 93846),
  (119520, 119539), (119648, 119672), (120782, 120831), (123200, 123209), (123632, 123641),
  (125127, 125135), (125264, 125273), (126065, 126123), (126125, 126127), (126129, 126132),
  (126209, 126253), (126255, 126269), (127232, 127244), (130032, 130041)]

/-- A character that has a value as a number. -/
def isNumeral (c : Char) : Bool := isDigitLike c || numeralRanges.covers c.toNat

/-- A letter or a numeral. -/
def isLetterOrNumeral (c : Char) : Bool := isWordChar c && c ≠ '_'

/-- A letter. -/
def isLetter (c : Char) : Bool := isLetterOrNumeral c && !nonLetterRanges.covers c.toNat

end SheetExport.Text
