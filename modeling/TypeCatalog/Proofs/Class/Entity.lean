import TypeCatalog.Class.Entity
import TypeCatalog.Proofs.Inheritance.Answers

/-!
What the class of an entity is made of does not depend on what is memorised. While the registry
stays as it is, each entity has one class and one list of findings (`Catalog.classOf`), whoever
makes it and in whatever order (`gives_entityClass?`).
-/

namespace TypeCatalog
open Catalog

namespace Catalog

/-- The attributes that an entity adds to its parent class, with what is found in gathering
them. -/
def addedAttributes (c : Catalog) (name : String) : Closure Attribute × List Finding :=
  if c.isBase name then c.attributeClosure name else c.extraAttributes name

/-- The relationships that an entity adds to its parent class, with what is found in gathering
them. -/
def addedRelationships (c : Catalog) (name : String) :
    Closure RelationshipAttribute × List Finding :=
  if c.isBase name then c.relationshipClosure name else c.extraRelationships name

/-- What is visible on an entity, with what is found in working it out. -/
def shownOn (c : Catalog) (name : String) : Visible × List Finding :=
  let addedAttributes := c.addedAttributes name
  let attributes := c.attributeClosure name
  let introduced := c.introduced name
  let addedRelationships := c.addedRelationships name
  let relationships := c.relationshipClosure name
  ({ attributes := attributes.1, addedAttributes := addedAttributes.1,
     relationships := relationships.1, addedRelationships := addedRelationships.1,
     introduced := introduced.1 },
   addedAttributes.2 ++ (attributes.2 ++ (introduced.2 ++
     (addedRelationships.2 ++ relationships.2))))

/-- The class of an entity, none if it has no definition, with all that is found in making it. -/
def classOf (c : Catalog) (r : Registry) (name : String) : Option EntityClass × List Finding :=
  match c.entities.find? name with
  | none => (none, [⟨.undefinedType, name, name, "no entity definition to resolve"⟩])
  | some d =>
    let made := EntityClass.ofType c r d (c.shownOn name).1
    (some made.1, (c.shownOn name).2 ++ made.2)

end Catalog

section
variable {c : Catalog} {known : Registry → Prop} {allowed : Finding → Prop}

theorem gives_addedAttributesOf (name : String) :
    Gives c known allowed (c.addedAttributesOf name) (c.addedAttributes name) := by
  unfold addedAttributesOf addedAttributes
  split
  · exact gives_attributesOf name
  · exact gives_extraAttributesOf name

theorem gives_addedRelationshipsOf (name : String) :
    Gives c known allowed (c.addedRelationshipsOf name) (c.addedRelationships name) := by
  unfold addedRelationshipsOf addedRelationships
  split
  · exact gives_relationshipsOf name
  · exact gives_extraRelationshipsOf name

theorem gives_visible (name : String) :
    Gives c known allowed (c.visible name) (c.shownOn name) := by
  refine (gives_addedAttributesOf name).bind ?_
  refine (gives_attributesOf name).bind ?_
  refine (gives_introducedBy name).bind ?_
  refine (gives_addedRelationshipsOf name).bind ?_
  exact (gives_relationshipsOf name).map fun _ => _

/-- Whoever makes the class of an entity makes the same, as long as the registry is the same. -/
theorem gives_entityClass? {r : Registry} (name : String) :
    Gives c (· = r) allowed (c.entityClass? name) (c.classOf r name) := by
  unfold entityClass? classOf
  cases c.entities.find? name with
  | none => exact (Gives.report _).map fun _ => none
  | some d =>
    refine (gives_visible name).bind ?_
    refine Gives.ofRegistry (fun r => some <$> Step.yield (EntityClass.ofType c r d _)) ?_
    rintro _ rfl
    exact (Gives.yield _).map some

end
end TypeCatalog
