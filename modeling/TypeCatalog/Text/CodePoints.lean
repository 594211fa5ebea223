/-!
Tables over code points, as the Unicode character database gives them: ranges, stretches with a
step (in many scripts small and capital letters alternate), and shifts that say how far the other
case of a letter lies. Every table is listed by ascending first code point, which is where a
search may stop.
-/

namespace TypeCatalog.Text.CodePoints

/-- The code points from the first to the last. -/
abbrev Range := Nat × Nat

/-- The code points from the first to the last, by steps of the third number. -/
abbrev Stretch := Nat × Nat × Nat

/-- A stretch and the distance to the code point that each of its members maps to. -/
abbrev Shift := Nat × Nat × Nat × Int

/-- Whether a range holds `c`. -/
def covers : List Range → Nat → Bool
  | [], _ => false
  | (first, last) :: rest, c =>
    if c < first then false else decide (c ≤ last) || covers rest c

/-- Whether a stretch holds `c`. -/
def coversStretch : List Stretch → Nat → Bool
  | [], _ => false
  | (first, last, step) :: rest, c =>
    if c < first then false
    else (decide (c ≤ last) && (c - first) % step == 0) || coversStretch rest c

/-- The distance that the table gives for `c`, zero if it gives none. -/
def shift : List Shift → Nat → Int
  | [], _ => 0
  | (first, last, step, distance) :: rest, c =>
    if c < first then 0
    else if c ≤ last ∧ (c - first) % step = 0 then distance
    else shift rest c

/-- What `c` maps to: its expansion if it has one, else the character at its distance. -/
def map (shifts : List Shift) (expansions : List (Nat × List Nat)) (c : Char) : List Char :=
  match expansions.lookup c.toNat with
  | some expansion => expansion.map Char.ofNat
  | none => [Char.ofNat (c.toNat + shift shifts c.toNat).toNat]

end TypeCatalog.Text.CodePoints
