/-!
Rosters: the names of all entities of a catalog, ascending, each with its place. `Roster.name`
tells who is at a place and `Roster.place?`, by halving, where a name is.
-/

namespace TypeCatalog

/-- Names of entities, ascending. -/
structure Roster where
  names : Array String := #[]
  deriving DecidableEq, Repr

namespace Roster

/-- The number of names. -/
def size (r : Roster) : Nat := r.names.size

/-- Whether there are no names. -/
def isEmpty (r : Roster) : Bool := r.names.isEmpty

/-- A place on a roster. -/
abbrev Place (r : Roster) := Fin r.names.size

/-- The name at a place. -/
def name (r : Roster) (p : r.Place) : String := r.names[p]

/-- All places, in order. -/
def places (r : Roster) : List r.Place := List.finRange r.names.size

/-- The place of a name from `low` on and before `high`. -/
def placeWithin? (r : Roster) (name : String) (low high : Nat) (bound : high ≤ r.names.size) :
    Option r.Place :=
  if _ordered : low < high then
    have _lower : low ≤ (low + high) / 2 := by omega
    have inside : (low + high) / 2 < high := by omega
    let middle : r.Place := ⟨(low + high) / 2, Nat.lt_of_lt_of_le inside bound⟩
    match compare name (r.name middle) with
    | .eq => some middle
    | .lt => r.placeWithin? name low middle.val (Nat.le_of_lt middle.isLt)
    | .gt => r.placeWithin? name (middle.val + 1) high bound
  else none
termination_by high - low
decreasing_by all_goals omega

/-- The place of a name. -/
def place? (r : Roster) (name : String) : Option r.Place :=
  r.placeWithin? name 0 r.names.size (Nat.le_refl _)

end Roster

end TypeCatalog
