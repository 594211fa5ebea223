import TypeCatalog.Proofs.Generation.Runs

/-!
What the definition of one entity can change in a run. Another definition in its place leaves the
names and the selection as they are, and so all enumerations, structs and relationships; and it
leaves the class of every entity that does not inherit from it. Main statement:
`replacement_does_not_reach`.
-/

namespace TypeCatalog
open Relation Catalog

/-! ### Another definition of one entity -/

section
variable {config : Config} {snapshot : Snapshot} {before after : List EntityType}
  {d d' : EntityType} {name : String}

/-- A definition is not looked at under other names. -/
theorem find?_replaced (hname : d'.name = d.name) (hne : name ≠ d.name) :
    (before ++ d' :: after).find? (fun e => e.name = name) =
      (before ++ d :: after).find? fun e => e.name = name := by
  simp [List.find?_append, hname, hne.symm]

/-- Under any name, the same definition is the first one, or it is the one that is replaced. -/
theorem find?_replaced_or (hname : d'.name = d.name) (name : String) :
    (before ++ d' :: after).find? (fun e => e.name = name) =
        (before ++ d :: after).find? (fun e => e.name = name) ∨
      (before ++ d :: after).find? (fun e => e.name = name) = some d ∧
        (before ++ d' :: after).find? (fun e => e.name = name) = some d' := by
  by_cases hkey : name = d.name
  · subst hkey
    cases hfirst : before.find? fun e => e.name = d.name with
    | some first => simp [List.find?_append, hfirst]
    | none => simp [List.find?_append, hfirst, hname]
  · exact .inl (find?_replaced hname hkey)

/-- Under the catalog of a snapshot and that of another one, in which one entity is defined
differently, the same names are defined and the same entities are generated. -/
theorem alike_replaced (hname : d'.name = d.name) (hservice : d'.serviceType = d.serviceType) :
    let c := (ofSnapshot config { snapshot with entities := before ++ d :: after }).1
    let c' := (ofSnapshot config { snapshot with entities := before ++ d' :: after }).1
    c.Alike c' ∧ c'.generates = c.generates := by
  intro c c'
  have hkeys : c'.entities.keys = c.entities.keys := by
    refine eq_of_ascending c'.entities.ascending_keys c.entities.ascending_keys fun key => ?_
    rw [KeyMap.mem_keys_iff, KeyMap.mem_keys_iff, contains_entities, contains_entities]
    simp [hname]
  refine ⟨⟨config.includeServiceTypes, config.excludeTypes, c'.entities, rfl, hkeys⟩,
    funext fun key => ?_⟩
  have hincludes : config.includes d'.toTypeHeader = config.includes d.toTypeHeader := by
    rw [Config.includes, Config.includes, hname, hservice]
  rw [generates_ofSnapshot, generates_ofSnapshot]
  rcases find?_replaced_or hname key with h | ⟨h, h'⟩
  · rw [h]
  · rw [h, h']
    exact hincludes

/-- What is above an entity stays as it is, if the entity whose definition changes is not above. -/
theorem agreeAbove_replaced (hname : d'.name = d.name) :
    let c := (ofSnapshot config { snapshot with entities := before ++ d :: after }).1
    let c' := (ofSnapshot config { snapshot with entities := before ++ d' :: after }).1
    ¬ ReflTransGen c.Extends name d.name → AgreeAbove c c' name := by
  intro c c' hreach type htype
  have hne : type ≠ d.name := fun he => hreach (he ▸ htype)
  rw [find?_entities, find?_entities, find?_replaced hname hne]

end

/-- Another definition of an entity, with the same name and service namespace, changes no class of an
enumeration, a struct or a relationship, and no class of another entity, unless the entity is above
that one or above the asset type, or is the asset type itself. -/
theorem replacement_does_not_reach (config : Config) (options options' : RunOptions)
    (snapshot : Snapshot) (before after : List EntityType) (d d' : EntityType) (name : String)
    (hname : d'.name = d.name) (hservice : d'.serviceType = d.serviceType) (hne : name ≠ d.name)
    (hreach : ¬ TransGen (ofSnapshot config
      { snapshot with entities := before ++ d :: after }).1.Extends name d.name)
    (hasset : ¬ ReflTransGen (ofSnapshot config
      { snapshot with entities := before ++ d :: after }).1.Extends config.assetType d.name) :
    let g := ClassModels.ofSnapshot config options
      { snapshot with entities := before ++ d :: after }
    let g' := ClassModels.ofSnapshot config options'
      { snapshot with entities := before ++ d' :: after }
    g'.entities.find? name = g.entities.find? name ∧
      g'.enums = g.enums ∧ g'.structs = g.structs ∧ g'.relationships = g.relationships := by
  intro g g'
  let c := (ofSnapshot config { snapshot with entities := before ++ d :: after }).1
  let c' := (ofSnapshot config { snapshot with entities := before ++ d' :: after }).1
  have h : g.Generated c _ := generated_ofSnapshot config _ options
  have h' : g'.Generated c' _ := generated_ofSnapshot config _ options'
  have hnamed : c.Named := named_ofSnapshot config _
  obtain ⟨halike, hgenerates⟩ : c.Alike c' ∧ c'.generates = c.generates :=
    alike_replaced hname hservice
  have habove : AgreeAbove c c' name := agreeAbove_replaced hname fun hrefl =>
    (reflTransGen_iff_eq_or_transGen.1 hrefl).elim (fun he => hne he.symm) hreach
  have hall : c'.allNamed = c.allNamed := halike.allNamed
  -- of the other kinds nothing is made of entities but their names
  refine ⟨?_, KeyMap.ext_find? fun key => ?_, KeyMap.ext_find? fun key => ?_,
    KeyMap.ext_find? fun key => ?_⟩
  · rw [h.entities, h'.entities, generated?, generated?, habove name .refl]
    refine Option.map_congr fun e he => ?_
    have hfound := (Option.filter_eq_some_iff.1 he).1
    rw [halike.entityMade_eq hnamed hgenerates (hnamed.entities name e hfound ▸ habove)
      (agreeAbove_replaced hname hasset)]
  · rw [h.enums, h'.enums]
    rfl
  · rw [h.structs, h'.structs, hall]
    rfl
  · rw [h.relationships, h'.relationships, hall]
    rfl

/-- An asset type, and an entity below it that lists another one as a sub-type. -/
def assetAndTable : List EntityType :=
  [{ name := "Asset" }, { name := "Table", superTypes := ["Asset"], subTypes := ["View"] }]

/-- A definition of the other entity. -/
def plainView : EntityType := { name := "View", superTypes := ["Asset"] }

/-- Another one, by which the entity is below itself and shows an attribute. -/
def knottedView : EntityType where
  name := "View"
  superTypes := ["View", "Table"]
  attributes := [{ name := "query", typeName := "string" }]

theorem lineage_assetAndTable :
    let c := (ofSnapshot {} { entities := assetAndTable ++ plainView :: [] }).1
    c.lineage "Asset" = ["Asset"] ∧ c.lineage "Table" = ["Table", "Asset"] := by
  intro c
  have hasset : c.superTypes "Asset" = [] := by decide +kernel
  have htable : c.superTypes "Table" = ["Asset"] := by decide +kernel
  simp [Catalog.lineage, Catalog.lineageFrom_cons, Catalog.lineageFrom_nil, hasset, htable]

/-- An entity may list as a sub-type what does not reach it. -/
theorem view_does_not_reach_table :
    let c := (ofSnapshot {} { entities := assetAndTable ++ plainView :: [] }).1
    let g := ClassModels.ofSnapshot {} {} { entities := assetAndTable ++ plainView :: [] }
    let g' := ClassModels.ofSnapshot {} (.ofWorkers 2)
      { entities := assetAndTable ++ knottedView :: [] }
    ¬ TransGen c.Extends "Table" "View" ∧ ¬ ReflTransGen c.Extends "Asset" "View" ∧
      g'.entities.find? "Table" = g.entities.find? "Table" ∧
      g'.enums = g.enums ∧ g'.structs = g.structs ∧ g'.relationships = g.relationships := by
  intro c g g'
  obtain ⟨hasset, htable⟩ := lineage_assetAndTable
  have hreach : ¬ TransGen c.Extends "Table" "View" := fun h => by
    have hmem := mem_lineage.2 h.to_reflTransGen
    rw [htable] at hmem
    simp at hmem
  have hbase : ¬ ReflTransGen c.Extends "Asset" "View" := fun h => by
    have hmem := mem_lineage.2 h
    rw [hasset] at hmem
    simp at hmem
  exact ⟨hreach, hbase, replacement_does_not_reach {} {} (.ofWorkers 2) {} assetAndTable []
    plainView knottedView "Table" rfl rfl (by decide) hreach hbase⟩

end TypeCatalog
