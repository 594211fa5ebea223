import TypeCatalog.Text.CodePoints

/-!
Emoji sequences, which are drawn as one picture: a picture with a skin tone, a pair of regional
indicators, a keycap, a flag spelled in tags, and all of these with a joiner and another picture
behind them. A sequence is recognised from its end: a `Tail` is as much of it as has been seen,
and `Tail.extend?` puts one more character before it.
-/

namespace TypeCatalog.Text.Emoji

/-- The ranges of emoji that are pictures by themselves, skin tones and regional indicators
apart. -/
def pictureRanges : List CodePoints.Range := [
  (8986, 8987), (9193, 9196), (9200, 9200), (9203, 9203), (9725, 9726), (9748, 9749),
  (9800, 9811), (9855, 9855), (9875, 9875), (9889, 9889), (9898, 9899), (9917, 9918),
  (9924, 9925), (9934, 9934), (9940, 9940), (9962, 9962), (9970, 9971), (9973, 9973),
  (9978, 9978), (9981, 9981), (9989, 9989), (9994, 9995), (10024, 10024), (10060, 10060),
  (10062, 10062), (10067, 10069), (10071, 10071), (10133, 10135), (10160, 10160), (10175, 10175),
  (11035, 11036), (11088, 11088), (11093, 11093), (126980, 126980), (127183, 127183),
  (127374, 127374), (127377, 127386), (127489, 127489), (127514, 127514), (127535, 127535),
  (127538, 127542), (127544, 127546), (127568, 127569), (127744, 127776), (127789, 127797),
  (127799, 127868), (127870, 127891), (127904, 127946), (127951, 127955), (127968, 127984),
  (127988, 127988), (127992, 127994), (128000, 128062), (128064, 128064), (128066, 128252),
  (128255, 128317), (128331, 128334), (128336, 128359), (128378, 128378), (128405, 128406),
  (128420, 128420), (128507, 128591), (128640, 128709), (128716, 128716), (128720, 128722),
  (128725, 128729), (128732, 128735), (128747, 128748), (128756, 128764), (128992, 129003),
  (129008, 129008), (129292, 129338), (129340, 129349), (129351, 129535), (129648, 129660),
  (129664, 129734), (129736, 129736), (129740, 129757), (129759, 129771), (129775, 129786)]

/-- The ranges of characters that a selector turns into a picture. -/
def selectableRanges : List CodePoints.Range := [
  (35, 35), (42, 42), (48, 57), (169, 169), (174, 174), (8252, 8252), (8265, 8265), (8482, 8482),
  (8505, 8505), (8596, 8601), (8617, 8618), (8986, 8987), (9000, 9000), (9167, 9167),
  (9193, 9203), (9208, 9210), (9410, 9410), (9642, 9643), (9654, 9654), (9664, 9664),
  (9723, 9726), (9728, 9732), (9742, 9742), (9745, 9745), (9748, 9749), (9752, 9752),
  (9757, 9757), (9760, 9760), (9762, 9763), (9766, 9766), (9770, 9770), (9774, 9775),
  (9784, 9786), (9792, 9792), (9794, 9794), (9800, 9811), (9823, 9824), (9827, 9827),
  (9829, 9830), (9832, 9832), (9851, 9851), (9854, 9855), (9874, 9879), (9881, 9881),
  (9883, 9884), (9888, 9889), (9895, 9895), (9898, 9899), (9904, 9905), (9917, 9918),
  (9924, 9925), (9928, 9928), (9934, 9935), (9937, 9937), (9939, 9940), (9961, 9962),
  (9968, 9973), (9975, 9978), (9981, 9981), (9986, 9986), (9989, 9989), (9992, 9997),
  (9999, 9999), (10002, 10002), (10004, 10004), (10006, 10006), (10013, 10013), (10017, 10017),
  (10024, 10024), (10035, 10036), (10052, 10052), (10055, 10055), (10060, 10060), (10062, 10062),
  (10067, 10069), (10071, 10071), (10083, 10084), (10133, 10135), (10145, 10145), (10160, 10160),
  (10175, 10175), (10548, 10549), (11013, 11015), (11035, 11036), (11088, 11088), (11093, 11093),
  (12336, 12336), (12349, 12349), (12951, 12951), (12953, 12953), (126980, 126980),
  (127344, 127345), (127358, 127359), (127490, 127490), (127514, 127514), (127535, 127535),
  (127543, 127543), (127757, 127759), (127765, 127765), (127772, 127772), (127777, 127777),
  (127780, 127788), (127798, 127798), (127864, 127864), (127869, 127869), (127891, 127891),
  (127894, 127895), (127897, 127899), (127902, 127903), (127911, 127911), (127916, 127918),
  (127938, 127938), (127940, 127940), (127942, 127942), (127946, 127950), (127956, 127968),
  (127981, 127981), (127987, 127987), (127989, 127989), (127991, 127991), (128008, 128008),
  (128021, 128021), (128031, 128031), (128038, 128038), (128063, 128063), (128065, 128066),
  (128070, 128073), (128077, 128078), (128083, 128083), (128106, 128106), (128125, 128125),
  (128163, 128163), (128176, 128176), (128179, 128179), (128187, 128187), (128191, 128191),
  (128203, 128203), (128218, 128218), (128223, 128223), (128228, 128230), (128234, 128237),
  (128247, 128247), (128249, 128251), (128253, 128253), (128264, 128264), (128269, 128269),
  (128274, 128275), (128329, 128330), (128336, 128359), (128367, 128368), (128371, 128377),
  (128391, 128391), (128394, 128397), (128400, 128400), (128421, 128421), (128424, 128424),
  (128433, 128434), (128444, 128444), (128450, 128452), (128465, 128467), (128476, 128478),
  (128481, 128481), (128483, 128483), (128488, 128488), (128495, 128495), (128499, 128499),
  (128506, 128506), (128528, 128528), (128647, 128647), (128653, 128653), (128657, 128657),
  (128660, 128660), (128664, 128664), (128685, 128685), (128690, 128690), (128697, 128698),
  (128700, 128700), (128715, 128715), (128717, 128719), (128736, 128741), (128745, 128745),
  (128752, 128752), (128755, 128755)]

/-- The ranges of pictures that a selector turns into text of one column. -/
def textualRanges : List CodePoints.Range := [
  (8986, 8987), (9193, 9196), (9200, 9200), (9203, 9203), (9725, 9726), (9748, 9749),
  (9800, 9811), (9855, 9855), (9875, 9875), (9889, 9889), (9898, 9899), (9917, 9918),
  (9924, 9925), (9934, 9934), (9940, 9940), (9962, 9962), (9970, 9971), (9973, 9973),
  (9978, 9978), (9981, 9981), (9989, 9989), (9994, 9995), (10024, 10024), (10060, 10060),
  (10062, 10062), (10067, 10069), (10071, 10071), (10133, 10135), (10160, 10160), (10175, 10175),
  (11035, 11036), (11088, 11088), (11093, 11093), (126980, 126980), (127757, 127759),
  (127765, 127765), (127772, 127772), (127864, 127864), (127891, 127891), (127911, 127911),
  (127916, 127918), (127938, 127938), (127940, 127940), (127942, 127942), (127946, 127946),
  (127968, 127968), (127981, 127981), (128008, 128008), (128021, 128021), (128031, 128031),
  (128038, 128038), (128066, 128066), (128070, 128073), (128077, 128078), (128083, 128083),
  (128106, 128106), (128125, 128125), (128163, 128163), (128176, 128176), (128179, 128179),
  (128187, 128187), (128191, 128191), (128203, 128203), (128218, 128218), (128223, 128223),
  (128228, 128230), (128234, 128237), (128247, 128247), (128249, 128251), (128264, 128264),
  (128269, 128269), (128274, 128275), (128336, 128359), (128528, 128528), (128647, 128647),
  (128653, 128653), (128657, 128657), (128660, 128660), (128664, 128664), (128685, 128685),
  (128690, 128690), (128697, 128698), (128700, 128700)]

/-- The ranges of pictures that take a skin tone. -/
def baseRanges : List CodePoints.Range := [
  (9757, 9757), (9977, 9977), (9994, 9997), (127877, 127877), (127938, 127940), (127943, 127943),
  (127946, 127948), (128066, 128067), (128070, 128080), (128102, 128120), (128124, 128124),
  (128129, 128131), (128133, 128135), (128143, 128143), (128145, 128145), (128170, 128170),
  (128372, 128373), (128378, 128378), (128400, 128400), (128405, 128406), (128581, 128583),
  (128587, 128591), (128675, 128675), (128692, 128694), (128704, 128704), (128716, 128716),
  (129292, 129292), (129295, 129295), (129304, 129311), (129318, 129318), (129328, 129337),
  (129340, 129342), (129399, 129399), (129461, 129462), (129464, 129465), (129467, 129467),
  (129485, 129487), (129489, 129501), (129731, 129733), (129776, 129786)]

/-- Whether `c` is a picture by itself. -/
def isPicture (c : Char) : Bool := CodePoints.covers pictureRanges c.toNat

/-- Whether a selector turns `c` into a picture. -/
def isSelectable (c : Char) : Bool := CodePoints.covers selectableRanges c.toNat

/-- Whether a selector turns the picture `c` into text. -/
def isTextual (c : Char) : Bool := CodePoints.covers textualRanges c.toNat

/-- Whether `c` takes a skin tone. -/
def isBase (c : Char) : Bool := CodePoints.covers baseRanges c.toNat

/-- Whether `c` is a skin tone. -/
def isTone (c : Char) : Bool := 0x1f3fb ≤ c.toNat && c.toNat ≤ 0x1f3ff

/-- Whether `c` is a regional indicator; two of them make the flag of a country. -/
def isIndicator (c : Char) : Bool := 0x1f1e6 ≤ c.toNat && c.toNat ≤ 0x1f1ff

/-- Whether `c` is a letter of a flag that is spelled in tags. -/
def isTagLetter (c : Char) : Bool := 0xe0061 ≤ c.toNat && c.toNat ≤ 0xe007a

/-- Whether `c` is a digit of a flag that is spelled in tags. -/
def isTagDigit (c : Char) : Bool := 0xe0030 ≤ c.toNat && c.toNat ≤ 0xe0039

/-- The end of a flag that is spelled in tags. -/
def isTagEnd (c : Char) : Bool := c.toNat = 0xe007f

/-- The black flag, with which a flag that is spelled in tags begins. -/
def isTagFlag (c : Char) : Bool := c.toNat = 0x1f3f4

/-- The joiner between pictures. -/
def joiner : Char := '\u200d'

/-- The selector that asks for a picture. -/
def pictureSelector : Char := '\ufe0f'

/-- The selector that asks for text. -/
def textSelector : Char := '\ufe0e'

/-- The mark that makes a keycap of the character before it. -/
def keycap : Char := '\u20e3'

/-- The end of an emoji sequence, as far as it has been seen. -/
inductive Tail
  /-- A picture, with all that belongs to it. -/
  | picture
  /-- A skin tone. -/
  | tone
  /-- Regional indicators. -/
  | indicators (count : Nat)
  /-- A joiner, with a picture behind it. -/
  | joined
  /-- A keycap mark before a joiner. -/
  | keycapJoined
  /-- A selector before a joiner, or before a keycap mark and a joiner. -/
  | selectedJoined
  /-- Regional indicators before a joiner. -/
  | indicatorsJoined (count : Nat)
  /-- Tags before a joiner, which spell a number of letters or end in a number of digits. -/
  | tagsJoined (letters digits : Nat)
  deriving DecidableEq, Repr

namespace Tail

/-- Whether letters and digits in tags spell the name of a flag. -/
def spellFlag (letters digits : Nat) : Bool :=
  digits = 3 || (digits = 0 && 3 ≤ letters && letters ≤ 6)

/-- The tail with one more character before it, and how many columns that adds; none if the
character does not belong to the sequence. -/
def extend? (c : Char) : Tail → Option (Int × Tail)
  | picture => if c = joiner then some (0, joined) else none
  | tone =>
    if isBase c then some (0, picture)
    else if c = joiner then some (0, joined)
    else none
  | indicators count =>
    if isIndicator c then some (1, indicators (count + 1))
    else if c = joiner ∧ 2 ≤ count then some (0, joined)
    else none
  | joined =>
    if c = keycap then some (0, keycapJoined)
    else if c = pictureSelector then some (0, selectedJoined)
    else if isIndicator c then some (1, indicatorsJoined 1)
    else if isTone c then some (0, tone)
    else if isTagEnd c then some (0, tagsJoined 0 0)
    else if isPicture c then some (0, picture)
    else none
  | keycapJoined => if c = pictureSelector then some (0, selectedJoined) else none
  | selectedJoined => if isSelectable c then some (0, picture) else none
  | indicatorsJoined count =>
    if isIndicator c then some (if count % 2 = 1 then -1 else 3, indicatorsJoined (count + 1))
    else if c = joiner ∧ 2 ≤ count then some (0, joined)
    else none
  | tagsJoined letters digits =>
    if isTagLetter c ∧ digits = 0 ∧ letters < 6 then some (0, tagsJoined (letters + 1) 0)
    else if isTagDigit c ∧ digits = 0 ∧ letters ≤ 4 then some (0, tagsJoined 0 1)
    else if isTagDigit c ∧ 0 < digits ∧ digits < 3 then some (0, tagsJoined 0 (digits + 1))
    else if isTagFlag c ∧ spellFlag letters digits then some (0, picture)
    else none

/-- The tail that a single character is, with its columns. -/
def ofChar? (c : Char) : Option (Int × Tail) :=
  if isIndicator c then some (1, indicators 1)
  else if isTone c then some (2, tone)
  else if isPicture c then some (2, picture)
  else none

end Tail

end TypeCatalog.Text.Emoji
