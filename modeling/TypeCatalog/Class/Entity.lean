import TypeCatalog.Class.Making
import TypeCatalog.Class.Roster
import TypeCatalog.Inheritance.Answers

/-!
The classes of entities. Making one asks what is visible on the entity, which may be memorised
(`Catalog.visible`), and then only describes that (`EntityClass.ofType`). The entities of a
catalog get their class names before any class is made, so that each of them can refer to each.
-/

namespace TypeCatalog

/-- What is visible on an entity: all that it shows, and what it adds to its parent class. -/
structure Visible where
  attributes : Closure Attribute
  addedAttributes : Closure Attribute
  relationships : Closure RelationshipAttribute
  addedRelationships : Closure RelationshipAttribute
  /-- The names of the relationships that no super-type declares. -/
  introduced : KeySet String
  deriving Repr

namespace Catalog

/-- Whether an entity is the root or the asset type, whose classes add all that they show. -/
def isBase (c : Catalog) (name : String) : Bool :=
  name = c.config.assetType || name = c.config.rootType

/-- The attributes that an entity adds to its parent class. -/
def addedAttributesOf (c : Catalog) (name : String) : Step (Closure Attribute) :=
  if c.isBase name then c.attributesOf name else c.extraAttributesOf name

/-- The relationships that an entity adds to its parent class. -/
def addedRelationshipsOf (c : Catalog) (name : String) :
    Step (Closure RelationshipAttribute) :=
  if c.isBase name then c.relationshipsOf name else c.extraRelationshipsOf name

/-- What is visible on an entity. -/
def visible (c : Catalog) (name : String) : Step Visible := do
  let addedAttributes ← c.addedAttributesOf name
  let attributes ← c.attributesOf name
  let introduced ← c.introducedBy name
  let addedRelationships ← c.addedRelationshipsOf name
  let relationships ← c.relationshipsOf name
  return { attributes, addedAttributes, relationships, addedRelationships, introduced }

/-! ### Other classes -/

/-- The class that an entity's class extends. -/
def parentClassOf (c : Catalog) (r : Registry) (name : String) : String :=
  if c.isBase name then c.config.referenceClass
  else (r.entityName? c.config.assetType).getD (c.config.classNameOf c.config.assetType)

/-- The classes of the sub-types that are generated. A sub-type that is not defined, or whose class
is not known, is a finding. -/
def subClassesOf (c : Catalog) (r : Registry) (owner : String) :
    List String → List String × List Finding
  | [] => ([], [])
  | subType :: rest =>
    let (classes, findings) := c.subClassesOf r owner rest
    if !c.entities.contains subType then
      (classes, ⟨.danglingReference, owner, subType, "sub-type has no definition"⟩ :: findings)
    else if !c.generates subType then (classes, findings)
    else
      match r.entityName? subType with
      | some name => (name :: classes, findings)
      | none =>
        (classes,
          ⟨.danglingReference, owner, subType, "sub-type has no registered class name"⟩
            :: findings)

end Catalog

/-- The classes of super-types. One whose class is not known is a finding. -/
def Registry.superClassesOf (r : Registry) (owner : String) :
    List String → List String × List Finding
  | [] => ([], [])
  | superType :: rest =>
    let (classes, findings) := r.superClassesOf owner rest
    match r.entityName? superType with
    | some name => (name :: classes, findings)
    | none =>
      (classes,
        ⟨.danglingReference, owner, superType, "super-type has no registered class name"⟩
          :: findings)

namespace Catalog

/-! ### Properties -/

/-- Whether an attribute of a name and a raw type is shown by the type that declares it. -/
def shows (c : Catalog) (name typeName : String) : Bool :=
  typeName ≠ c.config.internalType && !c.config.skips name

/-- The properties of a closure's attributes, without internal ones. -/
def propertiesOf (c : Catalog) (r : Registry) (owner : String) (closure : Closure Attribute) :
    List (Property × List Finding) :=
  (closure.values.filter fun o => o.declaration.typeName ≠ c.config.internalType).map fun o =>
    Property.ofAttribute c.config r .keyword owner o.owner o.declaration

/-- The properties of a closure's relationship attributes. -/
def relationshipPropertiesOf (c : Catalog) (r : Registry) (owner : String)
    (closure : Closure RelationshipAttribute) : List (Property × List Finding) :=
  closure.values.map fun o =>
    Property.ofRelationship c.config r owner o.owner o.declaration

/-- The properties of the attributes that an entity declares and shows. -/
def ownProperties (c : Catalog) (r : Registry) (d : EntityType) :
    List (Property × List Finding) :=
  (d.attributes.filter fun a => c.shows a.name a.typeName).map
    (Property.ofAttribute c.config r .keyword d.name d.name)

/-- The properties of the relationship attributes that an entity introduces and shows. -/
def ownRelationshipProperties (c : Catalog) (r : Registry) (d : EntityType)
    (introduced : KeySet String) : List (Property × List Finding) :=
  (d.relationshipAttributes.filter fun a =>
      introduced.contains a.name && c.shows a.name a.typeName).map
    (Property.ofRelationship c.config r d.name d.name)

end Catalog

/-- Tiers of properties, each with what was found in making it. -/
def Tiers.ofMade (owner : String) (shown added own : List (Property × List Finding)) :
    Tiers × List Finding :=
  let (own, ofOwn) := PropertySet.insertMade owner ∅ own
  let (added, ofAdded) := PropertySet.insertMade owner ∅ added
  let (shown, ofShown) := PropertySet.insertMade owner ∅ shown
  ({ shown, added, own }, ofOwn ++ ofAdded ++ ofShown)

namespace EntityClass

/-- The class of an entity that has a name and nothing else. -/
def named (c : Config) (source : String) : EntityClass :=
  { source, name := c.classNameOf source }

/-- The class of an entity on which something is visible. -/
def ofType (c : Catalog) (r : Registry) (d : EntityType) (v : Visible) :
    EntityClass × List Finding :=
  let (subClasses, ofSubTypes) := c.subClassesOf r d.name d.subTypes
  let (superClasses, ofSuperTypes) := r.superClassesOf d.name d.superTypes
  let shown := c.propertiesOf r d.name v.attributes
  let added := c.propertiesOf r d.name v.addedAttributes
  let own := c.ownProperties r d
  let (attributes, ofAttributes) := Tiers.ofMade d.name shown added own
  let (relationships, ofRelationships) := Tiers.ofMade d.name
    (c.relationshipPropertiesOf r d.name v.relationships)
    (c.relationshipPropertiesOf r d.name v.addedRelationships)
    (c.ownRelationshipProperties r d v.introduced)
  ({ source := d.name
     name := (r.entityName? d.name).getD (c.config.classNameOf d.name)
     description := d.description
     parent := some (c.parentClassOf r d.name)
     superClasses
     subClasses
     isAbstract := !subClasses.isEmpty && !c.config.forcesConcrete d.name
     attributes
     relationships
     keyed := KeySet.ofKeys (keyedNames ((own ++ added ++ shown).map (·.1))) },
   ofSubTypes ++ ofSuperTypes ++ ofAttributes ++ ofRelationships)

end EntityClass

namespace Catalog

/-! ### All entities -/

/-- Names the class of every entity, generated or not. -/
def nameEntities (c : Catalog) : Step Roster := do
  let named := c.entities.keys.map (EntityClass.named c.config)
  Step.register fun r => named.foldl Registry.addEntity r
  return { names := c.entities.keys.toArray }

/-- The class of an entity, none if it has no definition. -/
def entityClass? (c : Catalog) (name : String) : Step (Option EntityClass) :=
  match c.entities.find? name with
  | none => do
    Step.report [⟨.undefinedType, name, name, "no entity definition to resolve"⟩]
    return none
  | some d => do
    let v ← c.visible name
    some <$> Step.yield (EntityClass.ofType c (← get).registry d v)

/-- A list dealt out to at most `workers` shares of neighbours, as equal as can be. -/
def shares {α : Type} (workers : Nat) (l : List α) : List (List α) :=
  let size := (l.length + workers - 1) / workers
  if 0 < size then deal size l.length l else [l]
where
  /-- Shares of a size, as many as the fuel allows. -/
  deal (size : Nat) : Nat → List α → List (List α)
    | 0, _ => []
    | _, [] => []
    | fuel + 1, l => l.take size :: deal size fuel (l.drop size)

/-- The classes of the generated entities on a roster, by source, each of which takes the place of
its name-only class. The entities are shared out among workers, who work at once on the store, in
the turns of a schedule. -/
def entityClasses (c : Catalog) (roster : Roster) (workers : Nat) (schedule : List Nat := []) :
    Step (List EntityClass) := do
  let names := roster.names.toList.filter c.generates
  let made ← Work.together schedule
    ((shares workers names).map fun share => share.mapM c.entityClass?)
  let sorted := (made.flatten.filterMap id).mergeSort fun a b =>
    (compare a.source b.source).isLE
  Step.register fun r => sorted.foldl Registry.addEntity r
  return sorted

end Catalog

end TypeCatalog
