import TypeCatalog.Proofs.Class.PropertySets
import TypeCatalog.Proofs.Generation.Runs

/-!
The names of keyed properties that a class lists beside its sets of properties. A property is listed
when it is offered to a set, whether the set takes it or not. Main statement: `keyed_are_offered`,
which also says when the list and the sets agree.
-/

namespace TypeCatalog
open Catalog

/-! ### Offers -/

/-- The set has a keyed property of a name. -/
def PropertySet.HasKeyed (s : PropertySet) (name : String) : Prop :=
  ∃ p, s.get? name = some p ∧ p.type.isKeyed = true

/-- A list of names and some sets agree: listed are the names of the keyed properties in the sets. -/
def ListsKeyed (keyed : KeySet String) (sets : List PropertySet) : Prop :=
  ∀ name, keyed.contains name = true ↔ ∃ s ∈ sets, s.HasKeyed name

/-- Properties are offered to sets, one list to each, and some names are listed. -/
structure ListsOffered (offers : List (List Property)) (sets : List PropertySet)
    (keyed : KeySet String) : Prop where
  /-- Listed are the names of all keyed properties that are offered. -/
  listed : ∀ name, keyed.contains name = true ↔
    ∃ offer ∈ offers, ∃ p ∈ offer, p.name = name ∧ p.type.isKeyed = true
  /-- No keyed property that a set has is left out. -/
  complete : ∀ s ∈ sets, ∀ name, s.HasKeyed name → keyed.contains name = true
  /-- List and sets agree exactly if under the name of each keyed property that is offered, the first
  one of that name among some offer is keyed. -/
  agree_iff : ListsKeyed keyed sets ↔ ∀ offer ∈ offers, ∀ p ∈ offer, p.type.isKeyed = true →
    ∃ other ∈ offers, ∃ first,
      other.find? (fun q => q.name = p.name) = some first ∧ first.type.isKeyed = true

/-- They do not agree if a name is listed under which no set has a keyed property. -/
theorem not_listsKeyed {keyed : KeySet String} {sets : List PropertySet} (name : String)
    (hlisted : keyed.contains name = true)
    (hnone : (sets.all fun s => !(s.get? name).any (·.type.isKeyed)) = true) :
    ¬ ListsKeyed keyed sets := by
  intro h
  obtain ⟨s, hs, p, hp, hkeyed⟩ := (h name).1 hlisted
  have hnot := List.all_eq_true.1 hnone s hs
  simp only [hp, Option.any_some, hkeyed, Bool.not_true, Bool.false_eq_true] at hnot

theorem contains_keyedNames {l : List Property} {name : String} :
    (KeySet.ofKeys (keyedNames l)).contains name = true ↔
      ∃ p ∈ l, p.name = name ∧ p.type.isKeyed = true := by
  rw [KeySet.contains_ofKeys, keyedNames, List.mem_map]
  constructor
  · rintro ⟨p, hp, rfl⟩
    obtain ⟨hp, hkeyed⟩ := List.mem_filter.1 hp
    exact ⟨p, hp, rfl, hkeyed⟩
  · rintro ⟨p, hp, rfl, hkeyed⟩
    exact ⟨p, List.mem_filter.2 ⟨hp, hkeyed⟩, rfl⟩

/-- A new set has a keyed property of a name if the first one of that name among its offer is keyed. -/
theorem hasKeyed_made {owner name : String} {made : List (Property × List Finding)} :
    (PropertySet.insertMade owner ∅ made).1.HasKeyed name ↔
      ∃ first, (made.map (·.1)).find? (fun q => q.name = name) = some first ∧
        first.type.isKeyed = true := by
  rw [PropertySet.HasKeyed, PropertySet.insertMade, PropertySet.get?_insertAll,
    PropertySet.get?_empty, Option.none_or]

/-- New sets and the names of all keyed properties that were offered to them. -/
theorem listsOffered_made (owner : String) (mades : List (List (Property × List Finding))) :
    ListsOffered (mades.map fun made => made.map (·.1))
      (mades.map fun made => (PropertySet.insertMade owner ∅ made).1)
      (KeySet.ofKeys (keyedNames (mades.flatMap fun made => made.map (·.1)))) := by
  have hlisted : ∀ name,
      (KeySet.ofKeys (keyedNames (mades.flatMap fun made => made.map (·.1)))).contains name = true ↔
        ∃ offer ∈ mades.map fun made => made.map (·.1), ∃ p ∈ offer,
          p.name = name ∧ p.type.isKeyed = true := by
    intro name
    rw [contains_keyedNames]
    constructor
    · rintro ⟨p, hp, hkeyed⟩
      obtain ⟨made, hmade, hp⟩ := List.mem_flatMap.1 hp
      exact ⟨_, List.mem_map.2 ⟨made, hmade, rfl⟩, p, hp, hkeyed⟩
    · rintro ⟨offer, hoffer, p, hp, hkeyed⟩
      obtain ⟨made, hmade, rfl⟩ := List.mem_map.1 hoffer
      exact ⟨p, List.mem_flatMap.2 ⟨made, hmade, hp⟩, hkeyed⟩
  have hhas : ∀ name, (∃ s ∈ mades.map fun made => (PropertySet.insertMade owner ∅ made).1,
      s.HasKeyed name) ↔ ∃ offer ∈ mades.map fun made => made.map (·.1), ∃ first,
        offer.find? (fun q => q.name = name) = some first ∧ first.type.isKeyed = true := by
    intro name
    constructor
    · rintro ⟨s, hs, hkeyed⟩
      obtain ⟨made, hmade, rfl⟩ := List.mem_map.1 hs
      exact ⟨_, List.mem_map.2 ⟨made, hmade, rfl⟩, hasKeyed_made.1 hkeyed⟩
    · rintro ⟨offer, hoffer, hfirst⟩
      obtain ⟨made, hmade, rfl⟩ := List.mem_map.1 hoffer
      exact ⟨_, List.mem_map.2 ⟨made, hmade, rfl⟩, hasKeyed_made.2 hfirst⟩
  have hcomplete : ∀ s ∈ mades.map fun made => (PropertySet.insertMade owner ∅ made).1, ∀ name,
      s.HasKeyed name →
      (KeySet.ofKeys (keyedNames (mades.flatMap fun made => made.map (·.1)))).contains name = true := by
    intro s hs name hkeyed
    obtain ⟨offer, hoffer, first, hfirst, hkeyed⟩ := (hhas name).1 ⟨s, hs, hkeyed⟩
    have hname : first.name = name := by simpa using List.find?_some hfirst
    exact (hlisted name).2 ⟨offer, hoffer, first, List.mem_of_find?_eq_some hfirst, hname, hkeyed⟩
  refine ⟨hlisted, hcomplete, ⟨fun hagree offer hoffer p hp hkeyed => ?_, fun hfirsts name => ?_⟩⟩
  · exact (hhas p.name).1 ((hagree p.name).1 ((hlisted p.name).2 ⟨offer, hoffer, p, hp, rfl, hkeyed⟩))
  · refine ⟨fun hname => ?_, fun ⟨s, hs, hkeyed⟩ => hcomplete s hs name hkeyed⟩
    obtain ⟨offer, hoffer, p, hp, rfl, hkeyed⟩ := (hlisted name).1 hname
    exact (hhas p.name).2 (hfirsts offer hoffer p hp hkeyed)

/-! ### Classes -/

namespace Catalog

/-- The properties that are offered to the set of a struct or a relationship: those of all attributes
that it declares. -/
def declaredOffer (c : Catalog) (ofStrings : IndexKind) (owner : String)
    (attributes : List Attribute) : List Property :=
  (attributes.map (Property.ofAttribute c.config c.allNamed ofStrings owner owner)).map (·.1)

/-- The properties that are offered to the three sets of an entity's attributes: those of the
attributes that the entity declares itself, of those that it adds to its parent class, and of all
that are visible on it. -/
def tierOffers (c : Catalog) (d : EntityType) : List (List Property) :=
  [(c.ownProperties c.allMade d).map (·.1),
   (c.propertiesOf c.allMade d.name (c.addedAttributes d.name).1).map (·.1),
   (c.propertiesOf c.allMade d.name (c.attributeClosure d.name).1).map (·.1)]

end Catalog

section
variable {c : Catalog}

theorem listsOffered_struct (hnamed : c.Named) {d : StructType}
    (hd : c.structs.find? d.name = some d) :
    let e := (StructClass.ofType c.config c.allNamed d).1
    ListsOffered [c.declaredOffer .keyword d.name d.attributes] [e.properties] e.keyed := by
  have hdefined : c.structs.contains d.name = true := by
    rw [KeyMap.contains, hd]
    rfl
  have h := listsOffered_made d.name
    [d.attributes.map (Property.ofAttribute c.config c.allNamed .keyword d.name d.name)]
  simp only [List.map_cons, List.map_nil, List.flatMap_cons, List.flatMap_nil, List.append_nil] at h
  rw [StructClass.ofType, find?_allNamed hnamed hdefined]
  exact h

theorem listsOffered_relationship (d : RelationshipType) :
    let e := (RelationshipClass.ofType c.config c.allNamed d).1
    ListsOffered [c.declaredOffer .text d.name d.attributes] [e.properties] e.keyed := by
  have h := listsOffered_made d.name
    [d.attributes.map (Property.ofAttribute c.config c.allNamed .text d.name d.name)]
  simp only [List.map_cons, List.map_nil, List.flatMap_cons, List.flatMap_nil, List.append_nil] at h
  exact h

theorem listsOffered_entity (d : EntityType) :
    let e := (c.entityMade d).1
    ListsOffered (c.tierOffers d) [e.attributes.own, e.attributes.added, e.attributes.shown]
      e.keyed := by
  have h := listsOffered_made d.name [c.ownProperties c.allMade d,
    c.propertiesOf c.allMade d.name (c.addedAttributes d.name).1,
    c.propertiesOf c.allMade d.name (c.attributeClosure d.name).1]
  simp only [List.flatMap_cons, List.flatMap_nil, List.append_nil, ← List.map_append,
    ← List.append_assoc] at h
  exact h

end

/-- In every run a class lists the names of all keyed properties that were offered to its sets, those
included that a set has refused because their name was taken. No keyed property that a set has is left
out. -/
theorem keyed_are_offered (config : Config) (snapshot : Snapshot) (options : RunOptions) :
    let c := (Catalog.ofSnapshot config snapshot).1
    let g := ClassModels.ofSnapshot config options snapshot
    (∀ name e, g.structs.find? name = some e → ∃ d, c.structs.find? name = some d ∧
      ListsOffered [c.declaredOffer .keyword name d.attributes] [e.properties] e.keyed) ∧
      (∀ name e, g.relationships.find? name = some e → ∃ d, c.relationships.find? name = some d ∧
        ListsOffered [c.declaredOffer .text name d.attributes] [e.properties] e.keyed) ∧
      ∀ name e, g.entities.find? name = some e → ∃ d, c.entities.find? name = some d ∧
        ListsOffered (c.tierOffers d) [e.attributes.own, e.attributes.added, e.attributes.shown]
          e.keyed := by
  intro c g
  have h : g.Generated c _ := generated_ofSnapshot config snapshot options
  have hnamed : c.Named := named_ofSnapshot config snapshot
  refine ⟨fun name e he => ?_, fun name e he => ?_, fun name e he => ?_⟩
  · obtain ⟨d, hd, rfl⟩ := definition_of_generated? ((h.structs name).symm.trans he)
    obtain rfl := hnamed.structs name d hd
    exact ⟨d, hd, listsOffered_struct hnamed hd⟩
  · obtain ⟨d, hd, rfl⟩ := definition_of_generated? ((h.relationships name).symm.trans he)
    obtain rfl := hnamed.relationships name d hd
    exact ⟨d, hd, listsOffered_relationship d⟩
  · obtain ⟨d, hd, rfl⟩ := definition_of_generated? ((h.entities name).symm.trans he)
    exact ⟨d, hd, listsOffered_entity d⟩

/-- An entity that declares a string and a map whose properties are called alike. -/
def alikeEntity : EntityType where
  name := "Asset"
  attributes := [{ name := "fooBar", typeName := "string" },
    { name := "foo_bar", typeName := "map<string,string>" }]

/-- The entity, with a struct and a relationship that declare the same. -/
def alikeAttributes : Snapshot where
  structs := [{ name := "Box", attributes := alikeEntity.attributes }]
  entities := [alikeEntity]
  relationships := [
    { name := "asset_assets", first := .one "Asset" "source", second := .many "Asset" "targets",
      attributes := alikeEntity.attributes }]

theorem closure_alikeAttributes :
    ((Catalog.ofSnapshot {} alikeAttributes).1.attributeClosure "Asset").1 = .ofList
      (alikeEntity.attributes.map fun a => (a.name, ⟨"Asset", a⟩)) := by
  have hsuper : (Catalog.ofSnapshot {} alikeAttributes).1.superTypes "Asset" = [] := by
    decide +kernel
  have hlineage : (Catalog.ofSnapshot {} alikeAttributes).1.lineage "Asset" = ["Asset"] := by
    simp [Catalog.lineage, Catalog.lineageFrom_cons, Catalog.lineageFrom_nil, hsuper]
  simp only [attributeClosure, Catalog.closure, hlineage]
  decide +kernel

/-- A name may be listed although no property under that name is keyed, in each kind of class. -/
theorem refused_is_listed :
    let g := ClassModels.ofSnapshot {} {} alikeAttributes
    (∃ e, g.structs.find? "Box" = some e ∧ ¬ ListsKeyed e.keyed [e.properties]) ∧
      (∃ e, g.relationships.find? "asset_assets" = some e ∧
        ¬ ListsKeyed e.keyed [e.properties]) ∧
      ∃ e, g.entities.find? "Asset" = some e ∧
        ¬ ListsKeyed e.keyed [e.attributes.own, e.attributes.added, e.attributes.shown] := by
  intro g
  have h : g.Generated _ _ := generated_ofSnapshot {} alikeAttributes {}
  have hasset : (Catalog.ofSnapshot {} alikeAttributes).1.entities.find? "Asset" =
      some alikeEntity := by decide +kernel
  have hmade := (h.entities "Asset").trans
    (generated?_eq_some.2 ⟨alikeEntity, hasset, by decide +kernel, rfl⟩)
  refine ⟨⟨_, h.structs "Box", ?_⟩, ⟨_, h.relationships "asset_assets", ?_⟩,
    _, hmade, ?_⟩
  · exact not_listsKeyed "fooBar" (by decide +kernel) (by decide +kernel)
  · exact not_listsKeyed "fooBar" (by decide +kernel) (by decide +kernel)
  · have hbase : (Catalog.ofSnapshot {} alikeAttributes).1.isBase "Asset" = true := by
      decide +kernel
    have hname : alikeEntity.name = "Asset" := rfl
    simp only [entityMade, EntityClass.ofType, Tiers.ofMade, shownOn, addedAttributes, hname, hbase,
      if_true, closure_alikeAttributes]
    exact not_listsKeyed "fooBar" (by decide +kernel) (by decide +kernel)

end TypeCatalog
