import TypeCatalog.Proofs.Generation.Groundwork

/-!
The types of properties in all classes of a run. When the first property is made, all classes have
the names that they keep, so that each property refers to other classes by these names, wherever
they are defined. Main statements: `typed_groundwork` and `types_agree`.
-/

namespace TypeCatalog
open Catalog

/-! ### Groundwork -/

section
variable {c : Catalog}

theorem ready_allNamed (hnamed : c.Named) : c.allNamed.Ready c := by
  refine ⟨settled_allNamed hnamed, fun key known hknown => ?_⟩
  obtain rfl := named_of_allNamed hknown
  exact ⟨rfl, PropertySet.typed_empty⟩

/-- The classes made before those of entities are called after their definitions, and their
properties and roles have the types and names that the catalog gives them. -/
structure Groundwork.Typed (c : Catalog) (g : Groundwork) : Prop where
  enums : ∀ made ∈ g.enums, made.2.name = c.config.classNameOf made.1.name
  structs : ∀ made ∈ g.structs, made.2.name = c.config.classNameOf made.1.name ∧
    made.2.properties.Typed c made.1.name c.StructDeclares
  relationships : ∀ made ∈ g.relationships,
    made.2.first.name = c.config.classNameOf made.2.first.entity ∧
      made.2.second.name = c.config.classNameOf made.2.second.entity ∧
      made.2.properties.Typed c made.1.name c.RelationshipDeclares

/-- When all classes but those of entities are made, the classes that are known are typed. -/
theorem ready_allMade (hnamed : c.Named) : c.allMade.Ready c := by
  have hstructs : ((c.groundworkMade.structs.map (·.2)).foldl Registry.addStruct
      c.allNamed).Ready c := by
    refine List.foldlRecOn _ _ (ready_allNamed hnamed) fun r hr made hmade => ?_
    rw [groundworkMade, List.map_map] at hmade
    obtain ⟨d, hd, rfl⟩ := List.mem_map.1 hmade
    obtain ⟨key, hkey⟩ := KeyMap.mem_values_iff.1 hd
    obtain rfl := hnamed.structs key d hkey
    obtain ⟨hsource, hname, htyped⟩ := typed_struct (ready_allNamed hnamed) hkey
    -- the new class is filed in the place of one that had its name already
    refine hr.addStruct ?_ (hsource ▸ hname) (hsource ▸ htyped)
    rw [Function.comp_apply, hsource, KeyMap.contains, hkey]
    rfl
  exact List.foldlRecOn _ _ hstructs fun r hr made _ => hr.addRelationship made

/-- After the groundwork of a run all classes have names, and those that are made are typed. -/
theorem typed_groundwork (hnamed : c.Named) (fs : List Finding) :
    let ground := c.groundwork.run (Store.ofFindings fs)
    ground.1.Typed c ∧ ground.2.registry.Ready c := by
  intro ground
  have hground : ground = (c.groundworkMade, _) := (run_groundwork hnamed fs).1
  rw [hground]
  refine ⟨⟨fun made h => ?_, fun made h => ?_, fun made h => ?_⟩, ready_allMade hnamed⟩
  · obtain ⟨d, -, rfl⟩ := List.mem_map.1 h
    rfl
  · obtain ⟨d, hd, rfl⟩ := List.mem_map.1 h
    obtain ⟨key, hkey⟩ := KeyMap.mem_values_iff.1 hd
    obtain rfl := hnamed.structs key d hkey
    exact (typed_struct (ready_allNamed hnamed) hkey).2
  · obtain ⟨d, hd, rfl⟩ := List.mem_map.1 h
    obtain ⟨key, hkey⟩ := KeyMap.mem_values_iff.1 hd
    obtain rfl := hnamed.relationships key d hkey
    exact typed_relationship (settled_allNamed hnamed) hkey

/-! ### Runs -/

/-- What is found among the generated classes of a kind was made of a definition of that name. -/
theorem made_of_generated {α κ : Type} {header : α → TypeHeader} {made : List (α × κ)}
    {key : String} {e : κ} (h : (c.generated header made).find? key = some e) :
    ∃ d, (d, e) ∈ made ∧ (header d).name = key := by
  have hmem := KeyMap.mem_of_find?_ofList h
  obtain ⟨⟨d, e'⟩, hd, he⟩ := List.mem_map.1 hmem
  obtain ⟨rfl, rfl⟩ := Prod.mk.inj he
  exact ⟨d, (List.mem_filter.1 hd).1, rfl⟩

/-- The class of a generated entity has the entity's name and typed properties. -/
theorem typed_madeClass (hnamed : c.Named) {r : Registry} (h : r.Settled c) {name : String}
    (hname : name ∈ c.included) :
    let made := c.madeClass r name
    made.name = c.config.classNameOf made.source ∧
      made.attributes.Typed c made.source c.EntityDeclares ∧
      made.relationships.Typed c made.source c.EntityRelates := by
  obtain ⟨d, hd⟩ := defined_of_included hname
  obtain rfl := hnamed.entities name d hd
  rw [madeClass, classOf, hd]
  exact typed_entity h hd

end

/-- All generated classes are called after the definitions that they are filed under, and their
properties and roles have the types and names that the catalog gives them. -/
structure ClassModels.Typed (c : Catalog) (g : ClassModels) : Prop where
  enums : ∀ key e, g.enums.find? key = some e → e.name = c.config.classNameOf key
  structs : ∀ key e, g.structs.find? key = some e →
    e.name = c.config.classNameOf key ∧ e.properties.Typed c key c.StructDeclares
  relationships : ∀ key e, g.relationships.find? key = some e →
    e.first.name = c.config.classNameOf e.first.entity ∧
      e.second.name = c.config.classNameOf e.second.entity ∧
      e.properties.Typed c key c.RelationshipDeclares
  entities : ∀ key e, g.entities.find? key = some e →
    e.name = c.config.classNameOf key ∧ e.attributes.Typed c key c.EntityDeclares ∧
      e.relationships.Typed c key c.EntityRelates

/-- In every run the types of all properties agree with the catalog as a whole, wherever what they
refer to is defined. -/
theorem types_agree (config : Config) (snapshot : Snapshot) (options : RunOptions) :
    (ClassModels.ofSnapshot config options snapshot).Typed
      (Catalog.ofSnapshot config snapshot).1 := by
  let c := (Catalog.ofSnapshot config snapshot).1
  let fs := (Catalog.ofSnapshot config snapshot).2
  have hnamed : c.Named := named_ofSnapshot config snapshot
  obtain ⟨hground, hready⟩ := typed_groundwork hnamed fs
  obtain ⟨hroster, hsound⟩ := (keeps_groundwork (c := c)).run (Sound.ofFindings fs)
  -- the classes of entities are all made on the registry that the groundwork leaves
  obtain ⟨hclasses, -⟩ := run_entityClasses hsound hnamed.entities options.workers options.schedule
  rw [← hroster] at hclasses
  have hmodels : ClassModels.ofSnapshot config options snapshot = _ :=
    run_classModels (c := c) (s := .ofFindings fs) options
  rw [hmodels, hclasses]
  refine ⟨fun key e h => ?_, fun key e h => ?_, fun key e h => ?_, fun key e h => ?_⟩
  · obtain ⟨d, hd, rfl⟩ := made_of_generated h
    exact hground.enums _ hd
  · obtain ⟨d, hd, rfl⟩ := made_of_generated h
    exact hground.structs _ hd
  · obtain ⟨d, hd, rfl⟩ := made_of_generated h
    exact hground.relationships _ hd
  · obtain ⟨e', he, hfiled⟩ := List.mem_map.1 (KeyMap.mem_of_find?_ofList h)
    obtain ⟨name, hname, rfl⟩ := List.mem_map.1 he
    obtain ⟨rfl, rfl⟩ := Prod.mk.inj hfiled
    exact typed_madeClass hnamed hready.settled hname

end TypeCatalog
