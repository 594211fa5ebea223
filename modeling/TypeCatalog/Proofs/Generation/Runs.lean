import TypeCatalog.Proofs.Class.Alike
import TypeCatalog.Proofs.Generation.Groundwork

/-!
What a run gives, told by the definitions alone. Main statements: `generated_ofSnapshot`, which tells
each class and each finding of a run, and `Alike.entityMade`, which compares the classes of runs on
catalogs that are alike.
-/

namespace TypeCatalog
open Catalog

/-! ### Runs -/

namespace Catalog

/-- What is generated under a name: what is made of the definition that is filed under it, if the
settings include the definition. -/
def generated? {α κ : Type} (c : Catalog) (header : α → TypeHeader) (index : KeyMap String α)
    (make : α → κ) (key : String) : Option κ :=
  ((index.find? key).filter fun d => c.config.includes (header d)).map make

/-- The class of an entity, made when all other classes are, with all that is found in making it. -/
def entityMade (c : Catalog) (d : EntityType) : EntityClass × List Finding :=
  let visible := c.shownOn d.name
  let made := EntityClass.ofType c c.allMade d visible.1
  (made.1, visible.2 ++ made.2)

end Catalog

/-- A run has generated the classes of all definitions that the settings include, and has found what
was found in building the catalog, in making the classes of enumerations, structs and relationships,
generated or not, and in making the classes of the generated entities. -/
structure ClassModels.Generated (c : Catalog) (found : List Finding) (g : ClassModels) : Prop where
  enums : ∀ key, g.enums.find? key =
    c.generated? EnumType.toTypeHeader c.enums (fun d => (EnumClass.ofType c.config d).1) key
  structs : ∀ key, g.structs.find? key = c.generated? StructType.toTypeHeader c.structs
    (fun d => (StructClass.ofType c.config c.allNamed d).1) key
  relationships : ∀ key, g.relationships.find? key =
    c.generated? RelationshipType.toTypeHeader c.relationships
      (fun d => (RelationshipClass.ofType c.config c.allNamed d).1) key
  entities : ∀ key, g.entities.find? key =
    c.generated? EntityType.toTypeHeader c.entities (fun d => (c.entityMade d).1) key
  findings : ∀ f, f ∈ g.findings ↔ f ∈ found ∨ f ∈ c.groundworkFound ∨
    ∃ key d, c.entities.find? key = some d ∧ c.config.includes d.toTypeHeader = true ∧
      f ∈ (c.entityMade d).2

section
variable {c : Catalog} {α κ : Type}

theorem generated?_eq_some {header : α → TypeHeader} {index : KeyMap String α} {make : α → κ}
    {key : String} {e : κ} : c.generated? header index make key = some e ↔
      ∃ d, index.find? key = some d ∧ c.config.includes (header d) = true ∧ make d = e := by
  simp only [generated?, Option.map_eq_some_iff, Option.filter_eq_some_iff, and_assoc]

/-- What is generated under a name is made of the definition that is filed there. -/
theorem definition_of_generated? {header : α → TypeHeader} {index : KeyMap String α} {make : α → κ}
    {key : String} {e : κ} (h : c.generated? header index make key = some e) :
    ∃ d, index.find? key = some d ∧ make d = e := by
  obtain ⟨d, hd, -, hmade⟩ := generated?_eq_some.1 h
  exact ⟨d, hd, hmade⟩

/-- The classes that are made of all definitions of a kind are filed under their names. -/
theorem find?_generated {header : α → TypeHeader} {index : KeyMap String α}
    (hname : ∀ key d, index.find? key = some d → (header d).name = key) (make : α → κ)
    (key : String) :
    (c.generated header (index.values.map fun d => (d, make d))).find? key =
      c.generated? header index make key := by
  have hkeys : ((((index.values.map fun d => (d, make d)).filter
      fun p => c.config.includes (header p.1)).map fun p => ((header p.1).name, p.2)).map
        (·.1)).Nodup := by
    have hall : (index.values.map fun d => (d, make d)).map (fun p => (header p.1).name) =
        index.keys := by
      rw [List.map_map]
      exact names_values hname
    rw [List.map_map]
    exact index.nodup_keys.sublist (hall ▸ List.filter_sublist.map _)
  refine Option.ext fun e => ?_
  rw [Catalog.generated, KeyMap.find?_ofList hkeys, generated?_eq_some]
  constructor
  · intro h
    obtain ⟨p, hp, he⟩ := List.mem_map.1 h
    obtain ⟨hp, hincluded⟩ := List.mem_filter.1 hp
    obtain ⟨d, hd, rfl⟩ := List.mem_map.1 hp
    obtain ⟨key', hkey⟩ := KeyMap.mem_values_iff.1 hd
    obtain ⟨rfl, rfl⟩ := Prod.mk.inj he
    exact ⟨d, hname key' d hkey ▸ hkey, hincluded, rfl⟩
  · rintro ⟨d, hd, hincluded, rfl⟩
    refine List.mem_map.2 ⟨(d, make d), List.mem_filter.2 ⟨?_, hincluded⟩, ?_⟩
    · exact List.mem_map.2 ⟨d, KeyMap.mem_values_iff.2 ⟨key, hd⟩, rfl⟩
    · rw [hname key d hd]

theorem mem_included {name : String} : name ∈ c.included ↔
    ∃ d, c.entities.find? name = some d ∧ c.config.includes d.toTypeHeader = true := by
  rw [included, List.mem_filter, KeyMap.mem_keys_iff, KeyMap.contains, generates]
  cases c.entities.find? name <;> simp

theorem classOf_allMade (hnamed : c.Named) {key : String} {d : EntityType}
    (hd : c.entities.find? key = some d) :
    c.classOf c.allMade key = (some (c.entityMade d).1, (c.entityMade d).2) := by
  rw [classOf, hd, entityMade, hnamed.entities key d hd]

/-- The classes of the included entities are filed under their names. -/
theorem find?_included (hnamed : c.Named) (key : String) :
    (KeyMap.ofList ((c.included.map (c.madeClass c.allMade)).map fun e => (e.source, e))).find? key =
      c.generated? EntityType.toTypeHeader c.entities (fun d => (c.entityMade d).1) key := by
  have hsource : ∀ name ∈ c.included, (c.madeClass c.allMade name).source = name :=
    fun name hn => source_madeClass hn (hnamed.entities name)
  have hkeys : (((c.included.map (c.madeClass c.allMade)).map fun e => (e.source, e)).map
      (·.1)).Nodup := by
    have hsources : c.included.map (fun name => (c.madeClass c.allMade name).source) = c.included :=
      (List.map_congr_left hsource).trans c.included.map_id'
    rw [List.map_map, List.map_map]
    exact hsources.symm ▸ c.entities.nodup_keys.filter c.generates
  have hmade : ∀ {d}, c.entities.find? key = some d →
      c.madeClass c.allMade key = (c.entityMade d).1 := fun {d} hd => by
    rw [madeClass, classOf_allMade hnamed hd, Option.getD_some]
  refine Option.ext fun e => ?_
  rw [KeyMap.find?_ofList hkeys, generated?_eq_some]
  constructor
  · intro h
    obtain ⟨e', he', hfiled⟩ := List.mem_map.1 h
    obtain ⟨name, hn, rfl⟩ := List.mem_map.1 he'
    obtain ⟨rfl, rfl⟩ := Prod.mk.inj hfiled
    obtain ⟨d, hd, hincluded⟩ := mem_included.1 hn
    rw [hsource name hn] at hmade ⊢
    exact ⟨d, hd, hincluded, (hmade hd).symm⟩
  · rintro ⟨d, hd, hincluded, rfl⟩
    have hn : key ∈ c.included := mem_included.2 ⟨d, hd, hincluded⟩
    rw [← hmade hd]
    exact List.mem_map.2 ⟨_, List.mem_map.2 ⟨key, hn, rfl⟩, by rw [hsource key hn]⟩

/-- The class of an entity lists the sub-types that are generated. -/
theorem subClasses_entityMade (hnamed : c.Named) (d : EntityType) :
    (c.entityMade d).1.subClasses =
      (d.subTypes.filter c.generates).map c.config.classNameOf := by
  simp only [entityMade, EntityClass.ofType, subClassesOf_settled (settled_allMade hnamed)]

/-- What is found in making the classes of the included entities. -/
theorem found_included (hnamed : c.Named) {f : Finding} : f ∈ c.foundIn c.allMade c.included ↔
    ∃ key d, c.entities.find? key = some d ∧ c.config.includes d.toTypeHeader = true ∧
      f ∈ (c.entityMade d).2 := by
  simp only [foundIn, List.mem_flatMap, mem_included]
  constructor
  · rintro ⟨key, ⟨d, hd, hincluded⟩, hf⟩
    rw [classOf_allMade hnamed hd] at hf
    exact ⟨key, d, hd, hincluded, hf⟩
  · rintro ⟨key, d, hd, hincluded, hf⟩
    refine ⟨key, ⟨d, hd, hincluded⟩, ?_⟩
    rwa [classOf_allMade hnamed hd]

end

/-- What every run has generated, whoever does the work. -/
theorem generated_ofSnapshot (config : Config) (snapshot : Snapshot) (options : RunOptions) :
    (ClassModels.ofSnapshot config options snapshot).Generated
      (Catalog.ofSnapshot config snapshot).1 (Catalog.ofSnapshot config snapshot).2 := by
  let c := (Catalog.ofSnapshot config snapshot).1
  let fs := (Catalog.ofSnapshot config snapshot).2
  have hnamed : c.Named := named_ofSnapshot config snapshot
  obtain ⟨hroster, hsound⟩ := (keeps_groundwork (c := c)).run (Sound.ofFindings fs)
  obtain ⟨hground, -⟩ := run_groundwork hnamed fs
  rw [hground] at hroster hsound
  obtain ⟨hclasses, s, hs, hend⟩ :=
    run_entityClasses hsound hnamed.entities options.workers options.schedule
  have hmodels : ClassModels.ofSnapshot config options snapshot = _ :=
    run_classModels (c := c) (s := .ofFindings fs) options
  rw [hmodels, hground, hroster, hclasses, hend]
  refine ⟨find?_generated hnamed.enums _, find?_generated hnamed.structs _,
    find?_generated hnamed.relationships _, find?_included hnamed, fun f => ?_⟩
  have hstart : f ∈ (Log.addAll {} (fs ++ c.groundworkFound)).entries ↔
      f ∈ fs ∨ f ∈ c.groundworkFound := by
    rw [Log.mem_addAll, List.mem_append, or_iff_right List.not_mem_nil]
  rw [models, Log.mem_listing, hs.found, hstart, found_included hnamed, or_assoc]

/-! ### Runs on catalogs that are alike -/

namespace Catalog.Alike
variable {c c' : Catalog}

theorem allNamed (h : c.Alike c') : c'.allNamed = c.allNamed := by
  obtain ⟨services, excluded, entities, rfl, hkeys⟩ := h
  simp only [Catalog.allNamed, hkeys]
  rfl

/-- Before the classes of entities, alike catalogs make the same. -/
theorem allMade (h : c.Alike c') : c'.allMade = c.allMade := by
  simp only [Catalog.allMade, groundworkMade, h.allNamed]
  obtain ⟨services, excluded, entities, rfl, -⟩ := h
  rfl

/-- And they find the same. -/
theorem groundworkFound (h : c.Alike c') : c'.groundworkFound = c.groundworkFound := by
  simp only [Catalog.groundworkFound, h.allNamed]
  obtain ⟨services, excluded, entities, rfl, -⟩ := h
  rfl

/-- Catalogs that are alike, and agree on all that an entity inherits, make the same class of it, but
for the sub-types that are generated, and find the same in making it. -/
theorem entityMade (h : c.Alike c') (hnamed : c.Named) {d : EntityType}
    (habove : AgreeAbove c c' d.name) (hasset : AgreeAbove c c' c.config.assetType) :
    let subClasses := (d.subTypes.filter c'.generates).map c.config.classNameOf
    c'.entityMade d =
      ({ (c.entityMade d).1 with
          subClasses
          isAbstract := !subClasses.isEmpty && !c.config.forcesConcrete d.name },
        (c.entityMade d).2) := by
  simp only [Catalog.entityMade, h.allMade, h.shownOn habove hasset, h.ofType (settled_allMade hnamed)]

/-- If they also generate the same entities, the classes are the same. -/
theorem entityMade_eq (h : c.Alike c') (hnamed : c.Named) (hgenerates : c'.generates = c.generates)
    {d : EntityType} (habove : AgreeAbove c c' d.name)
    (hasset : AgreeAbove c c' c.config.assetType) : c'.entityMade d = c.entityMade d := by
  rw [h.entityMade hnamed habove hasset, hgenerates, ← subClasses_entityMade hnamed]
  rfl

end Catalog.Alike
end TypeCatalog
