import TypeCatalog.Proofs.Catalog
import TypeCatalog.Proofs.Class.Names
import TypeCatalog.Proofs.Class.PropertySets
import TypeCatalog.Proofs.Finding.Listing
import TypeCatalog.Proofs.Inheritance.Additions
import TypeCatalog.Proofs.KeyMap

/-!
Making a class again. Once a class is registered under its name, making it again gives the same
class. That of an entity is made from the name alone, and nothing new is found; that of a struct is
made from all that is known of the struct, so that each of its attributes meets the property which
the first making left under its name. Main statements: `struct_again` and `classes_are_remade`.
-/

namespace TypeCatalog
open Catalog

/-! ### Sets of properties -/

namespace PropertySet

/-- What is found in inserting properties whose names are taken. -/
def refusals (s : PropertySet) (owner : String) (l : List Property) : List Finding :=
  l.filterMap fun p => (s.get? p.name).map fun kept => conflict owner kept p

theorem mem_refusals {s : PropertySet} {owner : String} {l : List Property} {f : Finding} :
    f ∈ s.refusals owner l ↔
      ∃ p ∈ l, ∃ kept, s.get? p.name = some kept ∧ f = conflict owner kept p := by
  simp only [refusals, List.mem_filterMap, Option.map_eq_some_iff, @eq_comm _ f]

/-- Properties whose names are taken change nothing. -/
theorem insertAll_of_taken {owner : String} {l : List Property} {s : PropertySet}
    (h : ∀ p ∈ l, (s.get? p.name).isSome = true) :
    insertAll owner s l = (s, s.refusals owner l) := by
  induction l with
  | nil => rfl
  | cons p rest ih =>
    obtain ⟨kept, hkept⟩ := Option.isSome_iff_exists.1 (h p List.mem_cons_self)
    have hinsert : s.insert owner p = (s, [conflict owner kept p]) := by
      rw [insert, hkept]
    have hrest := ih fun q hq => h q (List.mem_cons_of_mem p hq)
    simp only [insertAll, hinsert, hrest, refusals, List.filterMap_cons, hkept, Option.map_some,
      List.cons_append, List.nil_append]

/-- What was inserted into a set has its name taken there. -/
theorem isSome_get?_insertAll {owner : String} {l : List Property} {s : PropertySet} {p : Property}
    (hp : p ∈ l) : ((insertAll owner s l).1.get? p.name).isSome = true := by
  rw [get?_insertAll, Option.isSome_or, Bool.or_eq_true, List.find?_isSome]
  exact .inr ⟨p, hp, decide_eq_true rfl⟩

/-- Properties that are inserted into a set again change nothing. -/
theorem insertMade_again {owner : String} {s : PropertySet}
    (made : List (Property × List Finding)) :
    (s.insertMade owner made).1.insertMade owner made =
      ((s.insertMade owner made).1, made.flatMap (·.2) ++
        (s.insertMade owner made).1.refusals owner (made.map (·.1))) := by
  have htaken : ∀ p ∈ made.map (·.1), ((s.insertMade owner made).1.get? p.name).isSome = true :=
    fun p hp => isSome_get?_insertAll hp
  rw [insertMade, insertAll_of_taken htaken]

end PropertySet

/-! ### Structs -/

section
variable {c : Catalog} {config : Config} {r : Registry} {d : StructType} {known : StructClass}

/-- The properties of a struct's attributes, each with what is found in making it. -/
def StructClass.ofAttributes (config : Config) (r : Registry) (d : StructType) :
    List (Property × List Finding) :=
  d.attributes.map (Property.ofAttribute config r .keyword d.name d.name)

/-- The class of a struct of which something is known. -/
theorem struct_of_known (hknown : r.structs.find? d.name = some known) :
    StructClass.ofType config r d =
      let properties := known.properties.insertMade d.name (StructClass.ofAttributes config r d)
      let keyed := keyedNames ((StructClass.ofAttributes config r d).map (·.1))
      ({ known with
          description := d.description
          properties := properties.1
          keyed := keyed.foldl KeySet.add known.keyed }, properties.2) := by
  rw [StructClass.ofType, hknown]
  rfl

/-- Each attribute of a struct has its property's name taken in the class, by whichever property. -/
theorem taken_of_known (hknown : r.structs.find? d.name = some known) {a : Attribute}
    (ha : a ∈ d.attributes) :
    ((StructClass.ofType config r d).1.properties.get? (config.propertyNameOf a.name)).isSome =
      true := by
  have hmade : (Property.ofAttribute config r .keyword d.name d.name a).1 ∈
      (StructClass.ofAttributes config r d).map (·.1) :=
    List.mem_map_of_mem (List.mem_map_of_mem ha)
  rw [struct_of_known hknown]
  exact PropertySet.isSome_get?_insertAll hmade

/-- Once the class of a struct is registered, making it again gives the same class. What is found is
what was found in making the properties, and that all of their names are taken. -/
theorem struct_again (hfiles : r.FilesStructs) (hknown : r.structs.find? d.name = some known) :
    let made := (StructClass.ofType config r d).1
    StructClass.ofType config (r.addStruct made) d =
      (made, (StructClass.ofAttributes config r d).flatMap (·.2) ++
        made.properties.refusals d.name ((StructClass.ofAttributes config r d).map (·.1))) := by
  intro made
  have hmade : StructClass.ofType config r d = _ := struct_of_known hknown
  have hsource : made.source = d.name := by
    rw [← hfiles d.name known hknown]
    exact congrArg (·.1.source) hmade
  have hsame : r.SameNames (r.addStruct made) := by
    refine Registry.sameNames_addStruct ?_
    rw [Registry.structName?, hsource, hknown]
    exact congrArg (fun m => some m.1.name) hmade.symm
  have hremembered : (r.addStruct made).structs.find? d.name = some made := by
    rw [Registry.find?_addStruct, if_pos hsource.symm]
  have hattributes : StructClass.ofAttributes config (r.addStruct made) d =
      StructClass.ofAttributes config r d := by
    rw [StructClass.ofAttributes, StructClass.ofAttributes, ofAttribute_congr hsame]
  have hkeyed : (keyedNames ((StructClass.ofAttributes config r d).map (·.1))).foldl KeySet.add
      made.keyed = made.keyed := by
    refine KeySet.foldl_add_of_contains fun name hkey => ?_
    simp only [made, hmade]
    exact KeySet.contains_foldl_add.2 (.inr hkey)
  have hproperties : made.properties.insertMade d.name (StructClass.ofAttributes config r d) =
      (made.properties, (StructClass.ofAttributes config r d).flatMap (·.2) ++
        made.properties.refusals d.name ((StructClass.ofAttributes config r d).map (·.1))) := by
    simp only [made, hmade]
    exact PropertySet.insertMade_again _
  have hdescription : made.description = d.description := congrArg (·.1.description) hmade
  rw [struct_of_known hremembered, hattributes]
  simp only [hproperties, hkeyed, ← hdescription]

end

/-! ### Entities -/

section
variable {c : Catalog} {r : Registry} {d : EntityType} {name : String}

/-- Once the class of an entity has a name, registering the class changes nothing about it. -/
theorem classOf_again (hd : c.entities.find? name = some d) (hname : d.name = name)
    (hknown : r.entities.contains name = true) :
    ∃ made, (c.classOf r name).1 = some made ∧
      c.classOf (r.addEntity made) name = c.classOf r name := by
  obtain ⟨known, hknown⟩ := Option.isSome_iff_exists.1 hknown
  have hmade : (c.classOf r name).1 = some (EntityClass.ofType c r d (c.shownOn name).1).1 := by
    rw [classOf, hd]
  refine ⟨_, hmade, ?_⟩
  have hsame : r.SameNames (r.addEntity (EntityClass.ofType c r d (c.shownOn name).1).1) := by
    refine Registry.sameNames_addEntity ?_
    simp only [EntityClass.ofType, Registry.entityName?, hname, hknown, Option.map_some,
      Option.getD_some]
  simp only [classOf, hd]
  rw [entity_congr hsame rfl]

/-- Once the class of an entity has a name, making and registering it and making it again gives the
same class, and nothing is found that was not found before. -/
theorem entity_again {s : Store} (hs : Sound c s) (hd : c.entities.find? name = some d)
    (hname : d.name = name) (hknown : s.registry.entities.contains name = true) :
    ∃ made, ((c.entityClass? name).run s).1 = some made ∧
      let t := ((c.act (.registerEntity made)).run ((c.entityClass? name).run s).2).2
      ((c.entityClass? name).run t).1 = some made ∧
        ((c.entityClass? name).run t).2.log.listing = t.log.listing := by
  obtain ⟨made, hmade, hagain⟩ := classOf_again hd hname hknown
  have hfirst : Gives c (· = s.registry) (fun _ => True) (c.entityClass? name)
      (c.classOf s.registry name) := gives_entityClass? name
  obtain ⟨hanswer, ⟨hsound, hregistry, -⟩, -, hfound⟩ :=
    hfirst.run (fun _ _ => trivial) ⟨hs, rfl, fun _ _ => trivial⟩
  refine ⟨made, hanswer.trans hmade, ?_⟩
  intro t
  have ht : t = { ((c.entityClass? name).run s).2 with registry := s.registry.addEntity made } := by
    rw [← hregistry]
    rfl
  -- all that can be found is in the log by now
  have hsecond : Gives c (· = s.registry.addEntity made) (· ∈ t.log.entries) (c.entityClass? name)
      (c.classOf s.registry name) := hagain ▸ gives_entityClass? name
  have hallowed : ∀ f ∈ (c.classOf s.registry name).2, f ∈ t.log.entries := by
    rw [ht]
    exact fun f hf => hfound hf
  obtain ⟨hanswer', ⟨-, -, honly⟩, hkept, -⟩ :=
    hsecond.run hallowed ⟨ht ▸ hsound.register _, ht ▸ rfl, fun _ hf => hf⟩
  exact ⟨hanswer'.trans hmade, Log.listing_congr fun f => ⟨honly f, fun hf => hkept hf⟩⟩

end

/-! ### In a history -/

/-- Makes the class of a struct of what is known. -/
def Catalog.structClass (c : Catalog) (d : StructType) : Step StructClass := do
  Step.yield (StructClass.ofType c.config (← get).registry d)

theorem run_structClass (c : Catalog) (d : StructType) (s : Store) :
    (c.structClass d).run s = ((StructClass.ofType c.config s.registry d).1,
      { s with log := s.log.addAll (StructClass.ofType c.config s.registry d).2 }) := by
  rw [structClass, Work.run_bind, Work.run_get, Step.yield, Work.run_bind, Step.run_report]
  rfl

/-- A struct whose class is registered and made again meets its own properties. -/
structure StructClass.MeetsItself (c : Catalog) (r : Registry) (d : StructType) (made : StructClass)
    (before after : List Finding) : Prop where
  /-- Each attribute's property has its name taken. -/
  taken : ∀ a ∈ d.attributes,
    (made.properties.get? (c.config.propertyNameOf a.name)).isSome = true
  /-- What is found besides what was found before is that these names are taken. -/
  found : ∀ f, f ∈ after ↔ f ∈ before ∨ ∃ a ∈ d.attributes, ∃ kept,
    made.properties.get? (c.config.propertyNameOf a.name) = some kept ∧
      f = PropertySet.conflict d.name kept
        (Property.ofAttribute c.config r .keyword d.name d.name a).1

/-- Once the class of a struct has a name, making and registering it and making it again gives the
same class, and what is found besides is that the struct meets its own properties. -/
theorem structClass_again {c : Catalog} {d : StructType} {s : Store}
    (hfiles : s.registry.FilesStructs) (hknown : s.registry.structs.contains d.name = true) :
    let made := ((c.structClass d).run s).1
    let t := ((c.act (.registerStruct made)).run ((c.structClass d).run s).2).2
    ((c.structClass d).run t).1 = made ∧ made.MeetsItself c s.registry d t.log.listing
      ((c.structClass d).run t).2.log.listing := by
  obtain ⟨known, hknown⟩ := Option.isSome_iff_exists.1 hknown
  intro made t
  have hmade : made = (StructClass.ofType c.config s.registry d).1 := by
    simp only [made, run_structClass]
  have hregistry : t.registry = s.registry.addStruct made := by
    simp only [t, run_structClass]
    rfl
  have hlog : t.log = s.log.addAll (StructClass.ofType c.config s.registry d).2 := by
    simp only [t, run_structClass]
    rfl
  have hagain : StructClass.ofType c.config t.registry d =
      (made, (StructClass.ofAttributes c.config s.registry d).flatMap (·.2) ++
        made.properties.refusals d.name
          ((StructClass.ofAttributes c.config s.registry d).map (·.1))) := by
    rw [hregistry, hmade]
    exact struct_again hfiles hknown
  have hattributes : ∀ p, p ∈ (StructClass.ofAttributes c.config s.registry d).map (·.1) ↔
      ∃ a ∈ d.attributes,
        (Property.ofAttribute c.config s.registry .keyword d.name d.name a).1 = p := by
    simp [StructClass.ofAttributes]
  -- what was found in making the properties was found the first time
  have hbefore : ∀ f ∈ (StructClass.ofAttributes c.config s.registry d).flatMap (·.2),
      f ∈ t.log.entries := by
    intro f hf
    rw [hlog, Log.mem_addAll, struct_of_known hknown]
    exact .inr (List.mem_append_left _ hf)
  rw [run_structClass, hagain]
  refine ⟨rfl, fun a ha => hmade ▸ taken_of_known hknown ha, fun f => ?_⟩
  rw [Log.mem_listing, Log.mem_listing, Log.mem_addAll, List.mem_append, PropertySet.mem_refusals]
  constructor
  · rintro (hf | hf | ⟨p, hp, kept, hkept, rfl⟩)
    · exact .inl hf
    · exact .inl (hbefore f hf)
    · obtain ⟨a, ha, rfl⟩ := (hattributes p).1 hp
      exact .inr ⟨a, ha, kept, hkept, rfl⟩
  · rintro (hf | ⟨a, ha, kept, hkept, rfl⟩)
    · exact .inl hf
    · exact .inr (.inr ⟨_, (hattributes _).2 ⟨a, ha, rfl⟩, kept, hkept, rfl⟩)

/-- Whatever a catalog did before: if the class of an entity or a struct has a name, making it,
registering it and making it again gives the same class. Nothing new is found about an entity; about
a struct it is found, for each of its attributes, that the attribute's property is in conflict with
the one that is held under its name, and nothing else. -/
theorem classes_are_remade (config : Config) (snapshot : Snapshot) (history : List Call) :
    let c := (Catalog.ofSnapshot config snapshot).1
    let fresh := Store.ofFindings (Catalog.ofSnapshot config snapshot).2
    let s := ((history.mapM c.perform).run fresh).2
    (∀ name, c.entities.contains name = true → s.registry.entities.contains name = true →
      ∃ made, ((c.entityClass? name).run s).1 = some made ∧
        let t := ((c.act (.registerEntity made)).run ((c.entityClass? name).run s).2).2
        ((c.entityClass? name).run t).1 = some made ∧
          ((c.entityClass? name).run t).2.log.listing = t.log.listing) ∧
    ∀ d : StructType, s.registry.structs.contains d.name = true →
      let made := ((c.structClass d).run s).1
      let t := ((c.act (.registerStruct made)).run ((c.structClass d).run s).2).2
      ((c.structClass d).run t).1 = made ∧ made.MeetsItself c s.registry d t.log.listing
        ((c.structClass d).run t).2.log.listing := by
  intro c fresh s
  have hs : Sound c s := (history_of_sound history (.ofFindings _)).2
  constructor
  · intro name hname hknown
    obtain ⟨d, hd⟩ := Option.isSome_iff_exists.1 hname
    exact entity_again hs hd (name_of_find? hd) hknown
  · intro d hknown
    exact structClass_again (filesStructs_history history _) hknown

/-! ### A struct with one attribute -/

/-- A struct with one attribute. -/
def noteStruct : StructType :=
  { name := "Box", attributes := [{ name := "note", typeName := "string" }] }

/-- The struct, and an entity that refers to it. -/
def noteBox : Snapshot where
  structs := [noteStruct]
  entities := [{ name := "Asset", attributes := [{ name := "box", typeName := "Box" }] }]

/-- All structs and entities get names. -/
def nameAll : List Call := [.act .nameStructs, .act .nameEntities]

/-- The class of the entity and that of the struct are the same when they are made again. -/
theorem noteBox_remade :
    let c := (Catalog.ofSnapshot {} noteBox).1
    let fresh := Store.ofFindings (Catalog.ofSnapshot {} noteBox).2
    let s := ((nameAll.mapM c.perform).run fresh).2
    let made := ((c.structClass noteStruct).run s).1
    (c.entities.contains "Asset" = true ∧ s.registry.entities.contains "Asset" = true ∧
      s.registry.structs.contains "Box" = true) ∧
      (∃ made, ((c.entityClass? "Asset").run s).1 = some made ∧
        let t := ((c.act (.registerEntity made)).run ((c.entityClass? "Asset").run s).2).2
        ((c.entityClass? "Asset").run t).1 = some made) ∧
      ((c.structClass noteStruct).run ((c.act (.registerStruct made)).run
        ((c.structClass noteStruct).run s).2).2).1 = made := by
  intro c fresh s made
  have hasset : c.entities.contains "Asset" = true := by decide +kernel
  have hnamed : s.registry.entities.contains "Asset" = true := by decide +kernel
  have hbox : s.registry.structs.contains "Box" = true := by decide +kernel
  obtain ⟨hentities, hstructs⟩ := classes_are_remade {} noteBox nameAll
  obtain ⟨made, hmade, hagain, -⟩ := hentities "Asset" hasset hnamed
  exact ⟨⟨hasset, hnamed, hbox⟩, ⟨made, hmade, hagain⟩, (hstructs noteStruct hbox).1⟩

/-- When the class of the struct is made again, its attribute is in conflict with itself. -/
theorem note_meets_itself :
    let c := (Catalog.ofSnapshot {} noteBox).1
    let fresh := Store.ofFindings (Catalog.ofSnapshot {} noteBox).2
    let s := ((nameAll.mapM c.perform).run fresh).2
    let made := ((c.structClass noteStruct).run s).1
    let t := ((c.act (.registerStruct made)).run ((c.structClass noteStruct).run s).2).2
    c.structs.find? "Box" = some noteStruct ∧ t.log.listing = [] ∧
      ((c.structClass noteStruct).run t).2.log.listing =
        [⟨.conflict, "Box", "note", "kept Box.note:string, discarded Box.note:string"⟩] := by
  intro c fresh s made t
  exact ⟨by decide +kernel, by decide +kernel, by decide +kernel⟩

end TypeCatalog
