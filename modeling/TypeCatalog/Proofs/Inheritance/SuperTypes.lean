import TypeCatalog.Proofs.Inheritance.Answers

/-!
The super-types of an entity are what can be reached from it in the inheritance graph, in which
nothing is above the root type. The walk finds them all and nothing else, whatever cycles and
undefined names the graph has.
-/

namespace TypeCatalog
open Relation

/-- What a catalog of a snapshot answers at first about the super-types of a name: the root type is
its own super-type, an undefined name has none, and any other type has those names that are reached
from it by going up at least once, itself left out. -/
theorem contains_superTypesOf (config : Config) (snapshot : Snapshot) (name other : String) :
    let c := (Catalog.ofSnapshot config snapshot).1
    let fresh := Store.ofFindings (Catalog.ofSnapshot config snapshot).2
    ((c.superTypesOf name).run fresh).1.contains other = true ↔
      if name = config.rootType then other = name
      else c.entities.contains name = true ∧ other ≠ name ∧ TransGen c.Rises name other := by
  intro c fresh
  have hroot : c.config.rootType = config.rootType := rfl
  rw [(gives_superTypesOf name).answer (.ofFindings _), Catalog.contains_ancestry, hroot]
  split
  next hr =>
    -- nothing is above the root
    have hnone : ¬ TransGen c.Rises name other := fun h => by
      obtain ⟨_, hup, -⟩ := TransGen.head'_iff.1 h
      exact hup.1 hr
    simp [hr, hr ▸ hnone]
  next hr =>
    -- whatever something is above has a definition
    have hdefined : TransGen c.Rises name other → c.entities.contains name = true := fun h => by
      obtain ⟨_, hup, -⟩ := TransGen.head'_iff.1 h
      obtain ⟨-, d, hd, -⟩ := Catalog.rises_iff.1 hup
      rw [KeyMap.contains, hd]
      rfl
    refine ⟨?_, fun h => .inr h.2⟩
    rintro (⟨h, -⟩ | ⟨hne, h⟩)
    · exact absurd h hr
    · exact ⟨hdefined h, hne, h⟩

end TypeCatalog
