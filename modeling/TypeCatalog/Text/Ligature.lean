import TypeCatalog.Text.Advance

/-!
Ligatures: letters that some scripts write as one shape, which takes fewer columns than the
letters. A ligature is recognised from its end: a `Tail` is as much of it as has been seen, and
`Tail.extend?` puts one more character before it. Invisible marks inside a ligature do not
matter, and neither does a joiner, except where the script asks for one; Kirat Rai vowel signs
have to stand side by side.
-/

namespace TypeCatalog.Text.Ligature

/-- The ranges of the forms of the Arabic letter alef. -/
def alefRanges : List CodePoints.Range := [
  (1570, 1571), (1573, 1573), (1575, 1575), (1649, 1651), (1653, 1653), (1907, 1908), (2160, 2178)]

/-- The ranges of the forms of the Arabic letter lam. -/
def lamRanges : List CodePoints.Range := [
  (1604, 1604), (1717, 1720), (1898, 1898), (2214, 2214), (2247, 2247)]

/-- The ranges of the Khmer letters that have a subscript form. -/
def subscriptRanges : List CodePoints.Range := [
  (6016, 6018), (6020, 6023), (6025, 6028), (6030, 6035), (6037, 6040), (6043, 6045),
  (6048, 6048), (6050, 6050), (6055, 6055), (6059, 6060), (6063, 6063)]

/-- The ranges of the Tifinagh consonants. -/
def consonantRanges : List CodePoints.Range := [
  (11569, 11621), (11631, 11631)]

/-- The ranges of the invisible marks. -/
def invisibleMarkRanges : List CodePoints.Range := [
  (847, 847), (6068, 6069), (6155, 6157), (6159, 6159), (65024, 65039), (917760, 917999)]

/-- The joiner. -/
def joiner : Char := '\u200d'

/-- The Khmer sign that makes a subscript of the next letter. -/
def coeng : Char := '\u17d2'

/-- The Tifinagh sign that joins two consonants. -/
def consonantJoiner : Char := '\u2d7f'

/-- Whether `c` is a Tifinagh consonant. -/
def isConsonant (c : Char) : Bool := CodePoints.covers consonantRanges c.toNat

/-- Whether `c` is an invisible mark. -/
def isInvisibleMark (c : Char) : Bool := CodePoints.covers invisibleMarkRanges c.toNat

/-- The end of a ligature, as far as it has been seen. `joined` tells whether a joiner stands
before it. -/
inductive Tail
  /-- An Arabic alef, behind a lam. -/
  | alef
  /-- A Hebrew lamed, behind an alef and a joiner. -/
  | lamed (joined : Bool)
  /-- A Buginese ya, behind the vowel sign i and a joiner. -/
  | ya (joined : Bool)
  /-- A Buginese vowel sign i with a ya, behind the letter a. -/
  | vowelYa
  /-- A Tifinagh consonant, behind another one and either sort of joiner. -/
  | consonant (joined : Bool)
  /-- A Tifinagh joiner with a consonant, behind another consonant. -/
  | joinedConsonant
  /-- A Lisu tone letter that ends a compound tone. -/
  | tone
  /-- An Old Turkic letter i, behind another letter and a joiner. -/
  | orkhonI (joined : Bool)
  /-- A Khmer letter, behind the sign that makes it a subscript. -/
  | subscript
  /-- A Kirat Rai vowel sign e, or ai, behind another vowel sign. -/
  | vowelE | vowelAi
  deriving DecidableEq, Repr

/-- What becomes of a tail with one more character before it. -/
inductive Outcome
  /-- The ligature goes on. -/
  | tail (t : Tail)
  /-- The ligature is complete. -/
  | complete
  deriving DecidableEq, Repr

namespace Tail

/-- Whether marks that are not drawn may stand before the tail. -/
def admitsMarks : Tail → Bool
  | vowelE | vowelAi => false
  | _ => true

/-- The tail with a joiner before it. -/
def join : Tail → Tail
  | lamed _ => lamed true
  | ya _ => ya true
  | consonant _ => consonant true
  | orkhonI _ => orkhonI true
  | t => t

/-- The tail with a letter or sign of its script before it, and how many columns that adds; none
if the character does not belong to the ligature. -/
def letter? (c : Char) : Tail → Option (Int × Outcome)
  | alef => if CodePoints.covers lamRanges c.toNat then some (0, .complete) else none
  | lamed true => if c = '\u05d0' then some (0, .complete) else none
  | ya true => if c = '\u1a17' then some (0, .tail vowelYa) else none
  | vowelYa => if c = '\u1a15' then some (0, .complete) else none
  | consonant joined =>
    if c = consonantJoiner then some (1, .tail joinedConsonant)
    else if joined ∧ isConsonant c then some (0, .complete)
    else none
  | joinedConsonant => if isConsonant c then some (-1, .complete) else none
  | tone => if '\ua4f8' ≤ c ∧ c ≤ '\ua4fb' then some (0, .complete) else none
  | orkhonI true => if c.toNat = 0x10c32 then some (0, .complete) else none
  | subscript => if c = coeng then some (-1, .complete) else none
  | vowelE =>
    if c.toNat = 0x16d63 ∨ c.toNat = 0x16d69 then some (0, .complete)
    else if c.toNat = 0x16d67 then some (0, .tail vowelAi)
    else if c.toNat = 0x16d68 then some (1, .tail vowelE)
    else none
  | vowelAi => if c.toNat = 0x16d63 then some (0, .complete) else none
  | lamed false | ya false | orkhonI false => none

/-- The tail with one more character before it, and how many columns that adds; none if the
character does not belong to the ligature. -/
def extend? (c : Char) (t : Tail) : Option (Int × Outcome) :=
  if t = alef then
    if isTransparent c then some (0, .tail alef) else t.letter? c
  else if ¬ t.admitsMarks then t.letter? c
  else if c = joiner then some (0, .tail t.join)
  else if isInvisibleMark c then some (0, .tail t)
  else t.letter? c

/-- The tail that a single character is. -/
def ofChar? (c : Char) : Option Tail :=
  if c = '\u05dc' then some (lamed false)
  else if CodePoints.covers alefRanges c.toNat then some alef
  else if CodePoints.covers subscriptRanges c.toNat then some subscript
  else if c = '\u1a10' then some (ya false)
  else if isConsonant c then some (consonant false)
  else if c = '\ua4fc' ∨ c = '\ua4fd' then some tone
  else if c.toNat = 0x10c03 then some (orkhonI false)
  else if c.toNat = 0x16d67 then some vowelE
  else if c.toNat = 0x16d68 then some vowelAi
  else none

end Tail

end TypeCatalog.Text.Ligature
