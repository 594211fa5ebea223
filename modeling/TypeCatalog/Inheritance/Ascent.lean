import TypeCatalog.Inheritance.Path
import TypeCatalog.Inheritance.Store

/-!
All super-types of an entity, found by walking the inheritance graph along its paths. A walk stops
at the root type, at names without a definition, and at types that are already on the path; the
last is reported as a cycle. The answer for a type is memorised unless a cycle was cut below it,
because then it depends on where the walk entered the cycle.
-/

namespace TypeCatalog.Catalog

/-- The outcome of a walk: the names met, and whether a cycle was cut. -/
structure Ascent where
  found : KeySet String
  cut : Bool
  deriving DecidableEq, Repr

/-- The finding that a type on the path is a super-type of the last one on it. -/
def cycle (path : List String) (name parent : String) : Finding :=
  ⟨.cyclicInheritance, name, parent, "cycle through " ++ " -> ".intercalate path⟩

/-- The finding that a name on a walk has no definition. -/
def undefinedSuperType (name : String) : Finding :=
  ⟨.undefinedType, name, name, "no entity definition for super-type lookup"⟩

/-- Memorises the names that a walk from a type has met, unless a cycle was cut. -/
def settle (name : String) (walk : Ascent) : Step Ascent := do
  if !walk.cut then
    modify fun s =>
      { s with memo := { s.memo with superTypes := s.memo.superTypes.insert name walk.found } }
  return walk

/-- Walks up from super-types of the last type on a path: one that is on the path itself is cut,
and any other one is left to `walk`. -/
def ascendFrom (path : List String) (name : String)
    (walk : (parent : String) → parent ∉ path → Step Ascent) : List String → Step Ascent
  | [] => return { found := ∅, cut := false }
  | parent :: rest =>
    if on : parent ∈ path then do
      Step.report [cycle path name parent]
      let others ← ascendFrom path name walk rest
      return { others with cut := true }
    else do
      let first ← walk parent on
      let others ← ascendFrom path name walk rest
      return {
        found := (KeySet.add first.found parent).union others.found
        cut := first.cut || others.cut }

/-- Walks up from a type that is not on the path that led to it. -/
def ascend (c : Catalog) (path : List String) (name : String) (_off : name ∉ path) :
    Step Ascent := do
  match (← get).memo.superTypes.find? name with
  | some known => return { found := known, cut := false }
  | none =>
    if name = c.config.rootType then
      settle name { found := KeySet.ofKeys [name], cut := false }
    else
      match _h : c.entities.find? name with
      | none =>
        Step.report [undefinedSuperType name]
        settle name { found := ∅, cut := false }
      | some d =>
        let onward := path ++ [name]
        settle name (← ascendFrom onward name (fun parent off => c.ascend onward parent off)
          d.superTypes)
termination_by c.offPath path
decreasing_by exact offPath_append_lt _h _off

/-- The names of all super-types of an entity; the root type is its own. -/
def superTypesOf (c : Catalog) (name : String) : Step (KeySet String) := do
  let walk ← c.ascend [] name List.not_mem_nil
  return walk.found

end TypeCatalog.Catalog
