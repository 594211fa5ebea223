import TypeCatalog.Proofs.Class.PropertySets
import TypeCatalog.Proofs.Generation.Runs

/-!
Attributes that the settings leave out. Those of a skipped name and those of the internal type are
kept out of the classes of entities, tier by tier, whoever declares them. Structs and relationships
take all of their attributes. Main statement: `only_entities_screen`.
-/

namespace TypeCatalog
open Catalog

/-! ### Sets of properties -/

namespace PropertySet

/-- Each property of a set is made of an attribute that the entity which it names declares and that
the settings do not leave out. -/
def Screened (c : Catalog) (r : Registry) (owner : String) (s : PropertySet) : Prop :=
  ∀ p ∈ s.toList, ∃ a, c.EntityDeclares p.declaredBy a ∧ c.shows a.name a.typeName = true ∧
    (Property.ofAttribute c.config r .keyword owner p.declaredBy a).1 = p

/-- Under each name a set has the property of the first attribute whose property has that name,
whatever the attribute is called and of whatever type it is. -/
def TakesAll (c : Catalog) (r : Registry) (ofStrings : IndexKind) (owner : String)
    (attributes : List Attribute) (s : PropertySet) : Prop :=
  ∀ name, s.get? name = (attributes.find? fun a => c.config.propertyNameOf a.name = name).map
    fun a => (Property.ofAttribute c.config r ofStrings owner owner a).1

section
variable {c : Catalog} {r : Registry} {owner : String}

theorem takesAll_made (ofStrings : IndexKind) (attributes : List Attribute) :
    (insertMade owner ∅
      (attributes.map (Property.ofAttribute c.config r ofStrings owner owner))).1.TakesAll c r
        ofStrings owner attributes :=
  fun name => get?_made owner name attributes

/-- The properties that an entity declares are screened one by one. -/
theorem screened_own {d : EntityType} (hd : c.entities.find? d.name = some d) :
    (insertMade d.name ∅ (c.ownProperties r d)).1.Screened c r d.name := by
  intro p hp
  obtain ⟨a, ha, rfl⟩ := exists_of_mem_made hp
  obtain ⟨ha, hshows⟩ := List.mem_filter.1 ha
  exact ⟨a, ⟨d, hd, ha⟩, hshows, rfl⟩

/-- What is shown of a closure is screened, the names when the closure is gathered and the types when
the properties are made of it. -/
theorem screened_closure {closure : Closure Attribute} {type : String}
    (hclosure : ∀ key o, closure.find? key = some o →
      (c.attributeClosure type).1.find? key = some o) :
    (insertMade owner ∅ (c.propertiesOf r owner closure)).1.Screened c r owner := by
  intro p hp
  obtain ⟨o, ho, rfl⟩ := exists_of_mem_made hp
  obtain ⟨ho, hexternal⟩ := List.mem_filter.1 ho
  obtain ⟨key, hkey⟩ := KeyMap.mem_values_iff.1 ho
  have hgathered := hclosure key o hkey
  have hshows := shows_of_closure hgathered (of_decide_eq_true hexternal)
  exact ⟨o.declaration, declared_of_closure hgathered, hshows, rfl⟩

end
end PropertySet

/-! ### Classes -/

section
variable {c : Catalog}

/-- All tiers of an entity's attributes are screened. -/
theorem screened_entity {d : EntityType} (hd : c.entities.find? d.name = some d) :
    let attributes := (c.entityMade d).1.attributes
    attributes.own.Screened c c.allMade d.name ∧ attributes.added.Screened c c.allMade d.name ∧
      attributes.shown.Screened c c.allMade d.name :=
  ⟨PropertySet.screened_own hd, PropertySet.screened_closure fun _ _ => find?_addedAttributes,
    PropertySet.screened_closure fun _ _ => id⟩

/-- A struct takes all of its attributes. -/
theorem takesAll_struct (hnamed : c.Named) {d : StructType}
    (hd : c.structs.find? d.name = some d) :
    (StructClass.ofType c.config c.allNamed d).1.properties.TakesAll c c.allNamed .keyword d.name
      d.attributes := by
  have hdefined : c.structs.contains d.name = true := by
    rw [KeyMap.contains, hd]
    rfl
  rw [StructClass.ofType, find?_allNamed hnamed hdefined]
  exact PropertySet.takesAll_made .keyword d.attributes

/-- So does a relationship. -/
theorem takesAll_relationship (d : RelationshipType) :
    (RelationshipClass.ofType c.config c.allNamed d).1.properties.TakesAll c c.allNamed .text d.name
      d.attributes :=
  PropertySet.takesAll_made .text d.attributes

end

/-- In every run no attribute of an entity's class, in whichever tier, is made of an attribute of a
skipped name or of the internal type. The classes of structs and relationships have properties of all
of their attributes, unless the names of properties meet. -/
theorem only_entities_screen (config : Config) (snapshot : Snapshot) (options : RunOptions) :
    let c := (Catalog.ofSnapshot config snapshot).1
    let g := ClassModels.ofSnapshot config options snapshot
    (∀ name e, g.entities.find? name = some e →
      e.attributes.own.Screened c c.allMade name ∧ e.attributes.added.Screened c c.allMade name ∧
        e.attributes.shown.Screened c c.allMade name) ∧
      (∀ name e, g.structs.find? name = some e → ∃ d, c.structs.find? name = some d ∧
        e.properties.TakesAll c c.allNamed .keyword name d.attributes) ∧
      ∀ name e, g.relationships.find? name = some e → ∃ d, c.relationships.find? name = some d ∧
        e.properties.TakesAll c c.allNamed .text name d.attributes := by
  intro c g
  have h : g.Generated c _ := generated_ofSnapshot config snapshot options
  have hnamed : c.Named := named_ofSnapshot config snapshot
  refine ⟨fun name e he => ?_, fun name e he => ?_, fun name e he => ?_⟩
  · obtain ⟨d, hd, rfl⟩ := definition_of_generated? ((h.entities name).symm.trans he)
    obtain rfl := hnamed.entities name d hd
    exact screened_entity hd
  · obtain ⟨d, hd, rfl⟩ := definition_of_generated? ((h.structs name).symm.trans he)
    obtain rfl := hnamed.structs name d hd
    exact ⟨d, hd, takesAll_struct hnamed hd⟩
  · obtain ⟨d, hd, rfl⟩ := definition_of_generated? ((h.relationships name).symm.trans he)
    obtain rfl := hnamed.relationships name d hd
    exact ⟨d, hd, takesAll_relationship d⟩

/-- A struct and a relationship that declare an attribute of a name that is skipped by default, and an
internal one. -/
def looseAttributes : Snapshot where
  structs := [
    { name := "Box", attributes := [{ name := "inputs", typeName := "string" },
        { name := "secret", typeName := "__internal" }] }]
  entities := [{ name := "Asset" }]
  relationships := [
    { name := "asset_assets", first := .one "Asset" "source", second := .many "Asset" "targets",
      attributes := [{ name := "inputs", typeName := "string" },
        { name := "secret", typeName := "__internal" }] }]

/-- What is left out of entities need not be left out of structs and relationships. -/
theorem structs_show_skipped :
    let g := ClassModels.ofSnapshot {} {} looseAttributes
    Config.skips {} "inputs" = true ∧ Config.internalType {} = "__internal" ∧
      (∃ e, g.structs.find? "Box" = some e ∧
        e.properties.toList.map (fun p => (p.source, p.type.base)) =
          [("inputs", "string"), ("secret", "__internal")]) ∧
      ∃ e, g.relationships.find? "asset_assets" = some e ∧
        e.properties.toList.map (fun p => (p.source, p.type.base)) =
          [("inputs", "string"), ("secret", "__internal")] := by
  intro g
  have h : g.Generated _ _ := generated_ofSnapshot {} looseAttributes {}
  refine ⟨by decide, rfl, ⟨_, h.structs "Box", ?_⟩, _, h.relationships "asset_assets", ?_⟩
  · decide +kernel
  · decide +kernel

end TypeCatalog
