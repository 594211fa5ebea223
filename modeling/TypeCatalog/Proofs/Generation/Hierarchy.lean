import TypeCatalog.Proofs.Generation.Selection

/-!
The classes of a run refer to each other. A class is made of names that are given before any class is
generated, and only of those types that the settings include; what a run gives in the end is gathered
from its workers afterwards. Both agree: a class lists the names of the generated classes of its
sub-types and of no others. Main statement: `hierarchy_is_closed`.
-/

namespace TypeCatalog
open Catalog

/-- How the class of an entity is linked with the other classes of a run. -/
structure ClassModels.Links (c : Catalog) (g : ClassModels) (d : EntityType) (e : EntityClass) :
    Prop where
  /-- The sub-classes are the classes that are generated of the sub-types, in the order in which the
  entity lists them, and as often. -/
  subClasses : e.subClasses = d.subTypes.filterMap fun type => (g.entities.find? type).map (·.name)
  isAbstract : e.isAbstract = true ↔
    e.subClasses ≠ [] ∧ c.config.forceConcrete.contains d.name = false
  base : d.name = c.config.rootType ∨ d.name = c.config.assetType →
    e.parent = some c.config.referenceClass
  /-- All other classes extend that of the asset type, generated or not. -/
  derived : d.name ≠ c.config.rootType → d.name ≠ c.config.assetType →
    e.parent = some (c.config.classNameOf c.config.assetType) ∧
      ∀ asset, g.entities.find? c.config.assetType = some asset → e.parent = some asset.name

/-! ### Parent classes -/

section
variable {c : Catalog} {r : Registry}

/-- Where all classes have names, the parent class has the name that the settings give it, whether
the asset type is defined or not. -/
theorem parentClassOf_settled (h : r.Settled c) (name : String) : c.parentClassOf r name =
    if c.isBase name then c.config.referenceClass else c.config.classNameOf c.config.assetType := by
  rw [parentClassOf, h.entities]
  split
  · rfl
  · split <;> rfl

theorem parent_entityMade (hnamed : c.Named) (d : EntityType) : (c.entityMade d).1.parent =
    some (if c.isBase d.name then c.config.referenceClass
      else c.config.classNameOf c.config.assetType) :=
  congrArg some (parentClassOf_settled (settled_allMade hnamed) d.name)

end

/-! ### Links -/

namespace ClassModels
variable {c : Catalog} {found : List Finding} {g : ClassModels}

/-- The generated classes of entities are called after the names that they are filed under. -/
theorem Generated.name_entity (h : g.Generated c found) (hnamed : c.Named) {name : String}
    {e : EntityClass} (he : g.entities.find? name = some e) :
    e.name = c.config.classNameOf name := by
  obtain ⟨d, hd, rfl⟩ := definition_of_generated? ((h.entities name).symm.trans he)
  rw [entityMade, name_ofType (settled_allMade hnamed), hnamed.entities name d hd]

theorem Generated.links (h : g.Generated c found) (hnamed : c.Named) {name : String}
    {e : EntityClass} (he : g.entities.find? name = some e) :
    ∃ d, c.entities.find? name = some d ∧ g.Links c d e := by
  obtain ⟨d, hd, rfl⟩ := definition_of_generated? ((h.entities name).symm.trans he)
  have hsub : (c.entityMade d).1.subClasses =
      d.subTypes.filterMap fun type => (g.entities.find? type).map (·.name) := by
    rw [subClasses_entityMade hnamed, ← h.contains_entities]
    exact KeyMap.map_filter_contains (fun _ _ => h.name_entity hnamed) d.subTypes
  have hparent := parent_entityMade hnamed d
  refine ⟨d, hd, hsub, ?_, fun hbase => ?_, fun hroot hasset => ?_⟩
  · have habstract : (c.entityMade d).1.isAbstract =
        (!(c.entityMade d).1.subClasses.isEmpty && !c.config.forcesConcrete d.name) := rfl
    rw [habstract, Bool.and_eq_true_iff, Bool.not_eq_true', Bool.not_eq_true',
      List.isEmpty_eq_false_iff, Config.forcesConcrete]
  · have hbase : c.isBase d.name = true := by simpa [isBase, or_comm] using hbase
    rw [hparent, if_pos hbase]
  · have hbase : ¬c.isBase d.name = true := by simp [isBase, hroot, hasset]
    rw [if_neg hbase] at hparent
    refine ⟨hparent, fun asset hfind => ?_⟩
    rw [hparent, h.name_entity hnamed hfind]

/-- The sub-classes of a class are classes of the run. -/
theorem Links.mem_subClasses {d : EntityType} {e : EntityClass} (h : g.Links c d e)
    {name : String} : name ∈ e.subClasses ↔
      ∃ type ∈ d.subTypes, ∃ e', g.entities.find? type = some e' ∧ e'.name = name := by
  rw [h.subClasses, List.mem_filterMap]
  simp only [Option.map_eq_some_iff]

/-- A class that is abstract is the class of an entity with a sub-type that is generated. -/
theorem Links.exists_of_isAbstract {d : EntityType} {e : EntityClass} (h : g.Links c d e)
    (habstract : e.isAbstract = true) :
    ∃ type ∈ d.subTypes, ∃ e', g.entities.find? type = some e' ∧ e'.name ∈ e.subClasses := by
  obtain ⟨name, hname⟩ := List.exists_mem_of_ne_nil _ (h.isAbstract.1 habstract).1
  obtain ⟨type, htype, e', he', rfl⟩ := h.mem_subClasses.1 hname
  exact ⟨type, htype, e', he', hname⟩

end ClassModels

/-- In every run the class of each entity is linked with the other classes of that run: it lists the
classes that are generated of its sub-types, it is abstract if it lists any, unless the settings forbid
it, and it extends the class of the asset type or, at the base, the reference class. -/
theorem hierarchy_is_closed (config : Config) (snapshot : Snapshot) (options : RunOptions) :
    let c := (Catalog.ofSnapshot config snapshot).1
    let g := ClassModels.ofSnapshot config options snapshot
    ∀ name e, g.entities.find? name = some e →
      ∃ d, c.entities.find? name = some d ∧ d.name = name ∧ g.Links c d e := by
  intro c g name e he
  have hnamed : c.Named := named_ofSnapshot config snapshot
  have h : g.Generated c _ := generated_ofSnapshot config snapshot options
  obtain ⟨d, hd, hlinks⟩ := h.links hnamed he
  exact ⟨d, hd, hnamed.entities name d hd, hlinks⟩

/-! ### Sub-types that are not generated -/

/-- An entity that lists one sub-type twice, another one that need not be generated, and a third one
without definition. -/
def tableOfViews : EntityType :=
  { name := "Table", superTypes := ["Asset"], subTypes := ["View", "Index", "Trigger", "View"] }

def tableAndViews : Snapshot where
  entities := [{ name := "Asset" }, tableOfViews, { name := "Index", superTypes := ["Table"] },
    { name := "View", superTypes := ["Table"] }]

/-- If one sub-type is excluded, the class of the entity lists that of the other one, twice. -/
theorem table_lists_view_twice :
    let g := ClassModels.ofSnapshot (Config.exclude {} "Index") {} tableAndViews
    ∃ e, g.entities.find? "Table" = some e ∧ e.subClasses = ["View", "View"] ∧
      e.isAbstract = true ∧ e.parent = some "Asset" := by
  intro g
  let c := (Catalog.ofSnapshot (Config.exclude {} "Index") tableAndViews).1
  have h : g.Generated c _ := generated_ofSnapshot (Config.exclude {} "Index") tableAndViews {}
  have htable : g.entities.find? "Table" = some (c.entityMade tableOfViews).1 :=
    (h.entities "Table").trans
      (generated?_eq_some.2 ⟨tableOfViews, by decide +kernel, by decide +kernel, rfl⟩)
  obtain ⟨d, hd, -, hlinks⟩ := hierarchy_is_closed _ _ _ _ _ htable
  have hd : d = tableOfViews := by
    have : c.entities.find? "Table" = some tableOfViews := by decide +kernel
    exact Option.some.inj (hd.symm.trans this)
  subst hd
  have hsub : (c.entityMade tableOfViews).1.subClasses = ["View", "View"] := by
    rw [subClasses_entityMade (named_ofSnapshot _ _)]
    decide +kernel
  refine ⟨_, htable, hsub, hlinks.isAbstract.2 ⟨by simp [hsub], by decide +kernel⟩, ?_⟩
  rw [(hlinks.derived (by decide) (by decide)).1]
  decide +kernel

end TypeCatalog
