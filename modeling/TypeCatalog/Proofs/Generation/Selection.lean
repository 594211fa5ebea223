import TypeCatalog.Proofs.Generation.Runs

/-!
The settings that select what is generated change nothing but the selection. A definition that they
leave out still gives its name to all references, and what it declares is still inherited. Main
statement: `selection_only_selects`.
-/

namespace TypeCatalog
open Catalog

/-! ### What two runs have in common -/

/-- There is a class under a name exactly if a definition is filed there that the settings include. -/
def Catalog.Selects {α κ : Type} (c : Catalog) (header : α → TypeHeader) (index : KeyMap String α)
    (classes : KeyMap String κ) : Prop :=
  ∀ name, classes.contains name = true ↔
    ∃ d, index.find? name = some d ∧ c.config.includes (header d) = true

namespace ClassModels

/-- The classes of a run are those of the definitions that the settings include. -/
structure Selected (c : Catalog) (g : ClassModels) : Prop where
  enums : c.Selects EnumType.toTypeHeader c.enums g.enums
  structs : c.Selects StructType.toTypeHeader c.structs g.structs
  relationships : c.Selects RelationshipType.toTypeHeader c.relationships g.relationships
  entities : c.Selects EntityType.toTypeHeader c.entities g.entities

/-- The class of an entity lists the classes of its sub-types that the run generates, and it is
abstract if it lists any, unless the settings forbid it. -/
def ListsSelected (c : Catalog) (g : ClassModels) : Prop :=
  ∀ name e, g.entities.find? name = some e → ∃ d, c.entities.find? name = some d ∧
    e.subClasses = (d.subTypes.filter g.entities.contains).map c.config.classNameOf ∧
    e.isAbstract = (!e.subClasses.isEmpty && !c.config.forcesConcrete name)

/-- Two runs have the same class of each definition that both of them generate; of an entity, all
but the sub-classes and whether it is abstract. -/
structure AgreeOnBoth (g g' : ClassModels) : Prop where
  enums : ∀ name e e', g.enums.find? name = some e → g'.enums.find? name = some e' → e' = e
  structs : ∀ name e e', g.structs.find? name = some e → g'.structs.find? name = some e' → e' = e
  relationships : ∀ name e e', g.relationships.find? name = some e →
    g'.relationships.find? name = some e' → e' = e
  entities : ∀ name e e', g.entities.find? name = some e → g'.entities.find? name = some e' →
    e' = { e with subClasses := e'.subClasses, isAbstract := e'.isAbstract }

end ClassModels

section
variable {c c' : Catalog} {found : List Finding} {g g' : ClassModels}

/-! ### One run -/

theorem selects_of_generated? {α κ : Type} {header : α → TypeHeader} {index : KeyMap String α}
    {make : α → κ} {classes : KeyMap String κ}
    (h : ∀ name, classes.find? name = c.generated? header index make name) :
    c.Selects header index classes := by
  intro name
  rw [KeyMap.contains, h, Option.isSome_iff_exists]
  simp only [generated?_eq_some]
  constructor
  · rintro ⟨_, d, hd, hincluded, -⟩
    exact ⟨d, hd, hincluded⟩
  · rintro ⟨d, hd, hincluded⟩
    exact ⟨make d, d, hd, hincluded, rfl⟩

namespace ClassModels.Generated

theorem selected (h : g.Generated c found) : g.Selected c :=
  ⟨selects_of_generated? h.enums, selects_of_generated? h.structs,
    selects_of_generated? h.relationships, selects_of_generated? h.entities⟩

/-- The entities that a run has classes of are those that the catalog generates. -/
theorem contains_entities (h : g.Generated c found) : g.entities.contains = c.generates := by
  funext name
  rw [Bool.eq_iff_iff, h.selected.entities, generates]
  cases c.entities.find? name <;> simp

theorem listsSelected (h : g.Generated c found) (hnamed : c.Named) : g.ListsSelected c := by
  intro name e he
  obtain ⟨d, hd, rfl⟩ := definition_of_generated? ((h.entities name).symm.trans he)
  refine ⟨d, hd, by rw [h.contains_entities, subClasses_entityMade hnamed], ?_⟩
  rw [← hnamed.entities name d hd]
  rfl

end ClassModels.Generated

/-! ### Two runs -/

/-- Of a definition that two runs generate, both make what they make of such definitions. -/
theorem eq_of_generated? {α κ : Type} {header : α → TypeHeader} {index : KeyMap String α}
    {make make' : α → κ} {name : String} {e e' : κ}
    (he : c.generated? header index make name = some e)
    (he' : c'.generated? header index make' name = some e') (hmake : ∀ d, make' d = make d) :
    e' = e := by
  obtain ⟨d, hd, rfl⟩ := definition_of_generated? he
  obtain ⟨d', hd', rfl⟩ := definition_of_generated? he'
  obtain rfl := Option.some.inj (hd.symm.trans hd')
  exact hmake d

/-- Runs on alike catalogs with the same entities agree on what both generate. -/
theorem agree_of_alike (halike : c.Alike c') (hentities : c'.entities = c.entities)
    (hnamed : c.Named) (h : g.Generated c found) (h' : g'.Generated c' found) :
    g.AgreeOnBoth g' := by
  have hall : c'.allNamed = c.allNamed := halike.allNamed
  refine ⟨fun name e e' he he' => ?_, fun name e e' he he' => ?_, fun name e e' he he' => ?_,
    fun name e e' he he' => ?_⟩
  · rw [h.enums] at he
    rw [h'.enums] at he'
    obtain ⟨services, excluded, entities, rfl, -⟩ := halike
    exact eq_of_generated? he he' fun d => rfl
  · rw [h.structs] at he
    rw [h'.structs, hall] at he'
    obtain ⟨services, excluded, entities, rfl, -⟩ := halike
    exact eq_of_generated? he he' fun d => rfl
  · rw [h.relationships] at he
    rw [h'.relationships, hall] at he'
    obtain ⟨services, excluded, entities, rfl, -⟩ := halike
    exact eq_of_generated? he he' fun d => rfl
  · obtain ⟨d, hd, rfl⟩ := definition_of_generated? ((h.entities name).symm.trans he)
    obtain ⟨d', hd', rfl⟩ := definition_of_generated? ((h'.entities name).symm.trans he')
    obtain rfl : d = d' := Option.some.inj (hd.symm.trans (hentities ▸ hd'))
    rw [halike.entityMade hnamed (.of_entities hentities _) (.of_entities hentities _)]

/-- What is found in making the class of an entity does not depend on what is generated. -/
theorem findings_of_alike (halike : c.Alike c') (hentities : c'.entities = c.entities)
    (hnamed : c.Named) (h : g.Generated c found) (h' : g'.Generated c' found)
    (hsub : ∀ name d, c.entities.find? name = some d → c'.config.includes d.toTypeHeader = true →
      c.config.includes d.toTypeHeader = true) :
    ∀ f ∈ g'.findings, f ∈ g.findings := by
  intro f hf
  rw [h.findings]
  rcases (h'.findings f).1 hf with hf | hf | ⟨name, d, hd, hincluded, hf⟩
  · exact .inl hf
  · exact .inr (.inl (halike.groundworkFound ▸ hf))
  · rw [halike.entityMade hnamed (.of_entities hentities _) (.of_entities hentities _)] at hf
    rw [hentities] at hd
    exact .inr (.inr ⟨name, d, hd, hsub name d hd hincluded, hf⟩)

end

/-- Under settings that differ only in what they select, each run has classes of exactly those
definitions that its settings include, and both have the same class of what both generate; of an
entity, each run lists the sub-types that it generates itself. If one of them includes no entity that
the other one does not include, it finds nothing that the other one does not find. -/
theorem selection_only_selects (config : Config) (services excluded : KeySet String)
    (snapshot : Snapshot) (options options' : RunOptions) :
    let config' := config.selecting services excluded
    let c := (Catalog.ofSnapshot config snapshot).1
    let c' := (Catalog.ofSnapshot config' snapshot).1
    let g := ClassModels.ofSnapshot config options snapshot
    let g' := ClassModels.ofSnapshot config' options' snapshot
    (g.Selected c ∧ g.ListsSelected c) ∧ (g'.Selected c' ∧ g'.ListsSelected c') ∧
      g.AgreeOnBoth g' ∧
      ((∀ name d, c.entities.find? name = some d → config'.includes d.toTypeHeader = true →
          config.includes d.toTypeHeader = true) →
        ∀ f ∈ g'.findings, f ∈ g.findings) := by
  intro config' c c' g g'
  have h : g.Generated c _ := generated_ofSnapshot config snapshot options
  have h' : g'.Generated c' _ := generated_ofSnapshot config' snapshot options'
  have hnamed : c.Named := named_ofSnapshot config snapshot
  have halike : c.Alike c' := ⟨services, excluded, c.entities, rfl, rfl⟩
  refine ⟨⟨h.selected, h.listsSelected hnamed⟩,
    ⟨h'.selected, h'.listsSelected (named_ofSnapshot config' snapshot)⟩,
    agree_of_alike halike rfl hnamed h h', findings_of_alike halike rfl hnamed h h'⟩

end TypeCatalog
