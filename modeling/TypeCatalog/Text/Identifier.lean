import TypeCatalog.Text.Alphanumeric

/-!
Identifiers of generated code. Alphanumeric characters are letters or numbers: numbers are the decimal
digits of all scripts and other numerals such as `½`, and all the rest are letters. An identifier
has letters, numbers and underscores, and does not start with a number.
-/

namespace TypeCatalog.Text

/-- The ranges of code points with the general category Nd or No. -/
def numberRanges : List CodePoints.Range := [
  (48, 57), (178, 179), (185, 185), (188, 190), (1632, 1641), (1776, 1785), (1984, 1993),
  (2406, 2415), (2534, 2543), (2548, 2553), (2662, 2671), (2790, 2799), (2918, 2927),
  (2930, 2935), (3046, 3058), (3174, 3183), (3192, 3198), (3302, 3311), (3416, 3422),
  (3430, 3448), (3558, 3567), (3664, 3673), (3792, 3801), (3872, 3891), (4160, 4169),
  (4240, 4249), (4969, 4988), (6112, 6121), (6128, 6137), (6160, 6169), (6470, 6479),
  (6608, 6618), (6784, 6793), (6800, 6809), (6992, 7001), (7088, 7097), (7232, 7241),
  (7248, 7257), (8304, 8304), (8308, 8313), (8320, 8329), (8528, 8543), (8585, 8585),
  (9312, 9371), (9450, 9471), (10102, 10131), (11517, 11517), (12690, 12693), (12832, 12841),
  (12872, 12879), (12881, 12895), (12928, 12937), (12977, 12991), (42528, 42537), (43056, 43061),
  (43216, 43225), (43264, 43273), (43472, 43481), (43504, 43513), (43600, 43609), (44016, 44025),
  (65296, 65305), (65799, 65843), (65909, 65912), (65930, 65931), (66273, 66299), (66336, 66339),
  (66720, 66729), (67672, 67679), (67705, 67711), (67751, 67759), (67835, 67839), (67862, 67867),
  (68028, 68029), (68032, 68047), (68050, 68095), (68160, 68168), (68221, 68222), (68253, 68255),
  (68331, 68335), (68440, 68447), (68472, 68479), (68521, 68527), (68858, 68863), (68912, 68921),
  (68928, 68937), (69216, 69246), (69405, 69414), (69457, 69460), (69573, 69579), (69714, 69743),
  (69872, 69881), (69942, 69951), (70096, 70105), (70113, 70132), (70384, 70393), (70736, 70745),
  (70864, 70873), (71248, 71257), (71360, 71369), (71376, 71395), (71472, 71483), (71904, 71922),
  (72016, 72025), (72688, 72697), (72784, 72812), (73040, 73049), (73120, 73129), (73184, 73193),
  (73552, 73561), (73664, 73684), (90416, 90425), (92768, 92777), (92864, 92873), (93008, 93017),
  (93019, 93025), (93552, 93561), (93824, 93846), (118000, 118009), (119488, 119507),
  (119520, 119539), (119648, 119672), (120782, 120831), (123200, 123209), (123632, 123641),
  (124144, 124153), (124401, 124410), (125127, 125135), (125264, 125273), (126065, 126123),
  (126125, 126127), (126129, 126132), (126209, 126253), (126255, 126269), (127232, 127244),
  (130032, 130041)]

/-- Whether `c` is a number, in whatever script. -/
def isNumber (c : Char) : Bool := CodePoints.covers numberRanges c.toNat

/-- Whether `c` is a letter. -/
def isLetter (c : Char) : Bool := isAlphanumeric c && !isNumber c

/-- Whether an identifier may have `c` behind its first character. -/
def isIdentifierChar (c : Char) : Bool := isAlphanumeric c || c = '_'

/-- Whether a text is an identifier. -/
def isIdentifier : List Char → Bool
  | [] => false
  | c :: rest => (isLetter c || c = '_') && rest.all isIdentifierChar

end TypeCatalog.Text
