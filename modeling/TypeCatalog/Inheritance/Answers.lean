import TypeCatalog.Inheritance.Ascent

/-!
Questions about what entities show, answered from memory where the answer is known.
-/

namespace TypeCatalog.Catalog

/-- The attributes that an entity shows. -/
def attributesOf (c : Catalog) (name : String) : Step (Closure Attribute) :=
  Step.memorised (·.attributes) (fun m t => { m with attributes := t }) name <|
    Step.yield (c.attributeClosure name)

/-- The relationships that an entity shows. -/
def relationshipsOf (c : Catalog) (name : String) : Step (Closure RelationshipAttribute) :=
  Step.memorised (·.relationships) (fun m t => { m with relationships := t }) name <|
    Step.yield (c.relationshipClosure name)

/-- The names of the relationships that an entity declares and none of its super-types does. -/
def introducedBy (c : Catalog) (name : String) : Step (KeySet String) :=
  Step.memorised (·.introduced) (fun m t => { m with introduced := t }) name do
    if c.entities.contains name then
      return c.namesIntroduced name (← c.superTypesOf name)
    else return ∅

/-- The attributes that an entity shows and the asset type does not. -/
def extraAttributesOf (c : Catalog) (name : String) : Step (Closure Attribute) :=
  Step.memorised (·.extraAttributes) (fun m t => { m with extraAttributes := t }) name do
    let base ← c.attributesOf c.config.assetType
    return without (← c.attributesOf name) base

/-- The relationships that an entity shows and the asset type does not. -/
def extraRelationshipsOf (c : Catalog) (name : String) :
    Step (Closure RelationshipAttribute) :=
  Step.memorised (·.extraRelationships) (fun m t => { m with extraRelationships := t }) name do
    let base ← c.relationshipsOf c.config.assetType
    return without (← c.relationshipsOf name) base

end TypeCatalog.Catalog
