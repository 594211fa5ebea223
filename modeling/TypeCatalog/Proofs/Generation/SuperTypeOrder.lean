import TypeCatalog.Proofs.Generation.Replacement
import TypeCatalog.Proofs.Generation.SameCalls

/-!
What the order in which an entity lists its super-types can change. What is above a type does not
depend on it, and so neither do the names that the type shows; only which declaration stands under a
name does. A type that is configured in the place of the declared one is the same whichever
declaration that is, up to its container, which is the one of the type that it replaces. Main
statements: `Reorders.extends_eq`, `Reorders.contains_attributeClosure`, `typeAt_replaced` and
`replaced_up_to_container`.
-/

namespace TypeCatalog
open Relation Catalog

/-! ### Reordered super-types -/

/-- Two catalogs have the same settings, and define the same entities but for the order of their
super-types. -/
structure Catalog.Reorders (c c' : Catalog) : Prop where
  config : c'.config = c.config
  superTypes : ∀ name, (c'.superTypes name).Perm (c.superTypes name)
  entities : ∀ name, c'.entities.find? name =
    (c.entities.find? name).map fun d => { d with superTypes := c'.superTypes name }

/-- The description of the root type has nothing to do with its super-types. -/
theorem describeRoot_reordered (config : Config) (d : EntityType) (superTypes : List String) :
    describeRoot config { d with superTypes } = { describeRoot config d with superTypes } := by
  rw [describeRoot, describeRoot]
  split <;> rfl

/-- Another order of an entity's super-types reorders the catalog of a snapshot. -/
theorem reorders_ofSnapshot (config : Config) (snapshot : Snapshot) (before after : List EntityType)
    (d : EntityType) {superTypes : List String} (hperm : superTypes.Perm d.superTypes) :
    (ofSnapshot config { snapshot with entities := before ++ d :: after }).1.Reorders
      (ofSnapshot config
        { snapshot with entities := before ++ { d with superTypes } :: after }).1 := by
  have hfound := @find?_replaced_or before after d { d with superTypes } rfl
  refine ⟨rfl, fun name => ?_, fun name => ?_⟩
  · rw [superTypes_ofSnapshot, superTypes_ofSnapshot]
    rcases hfound name with h | ⟨h, h'⟩
    · rw [h]
    · rw [h, h']
      exact hperm
  · rw [find?_entities, find?_entities, superTypes_ofSnapshot]
    rcases hfound name with h | ⟨h, h'⟩
    · rw [h]
      cases (before ++ d :: after).find? fun e => e.name = name with
      | none => rfl
      | some e =>
        simp only [Option.map_some, Option.elim_some]
        split
        · rw [← describeRoot_reordered]
        · rfl
    · rw [h, h']
      simp only [Option.map_some, Option.elim_some]
      split
      · rw [← describeRoot_reordered]
      · rfl

namespace Catalog.Reorders
variable {c c' : Catalog} {α : Type}

theorem extends_eq (h : c.Reorders c') : c'.Extends = c.Extends :=
  funext fun below => funext fun _ => propext (h.superTypes below).mem_iff

/-- An entity shows the same names, since what is above it is the same and declares the same. -/
theorem contains_attributeClosure (h : c.Reorders c') (name key : String) :
    (c'.attributeClosure name).1.contains key = (c.attributeClosure name).1.contains key := by
  have hpasses : c'.passesAttribute = c.passesAttribute := by
    funext type a
    rw [passesAttribute, passesAttribute, h.config]
  rw [Bool.eq_iff_iff, attributeClosure, attributeClosure, (shows_closure _ name).keys,
    (shows_closure _ name).keys, h.extends_eq, hpasses]
  refine exists_congr fun type => ?_
  rw [h.entities]
  cases c.entities.find? type with
  | none => simp
  | some d => simp [Member.attributes]

end Catalog.Reorders

/-! ### Replaced types -/

/-- A replacement is an entity in the container of the declared type, whether or not the attribute is
forced to an enumeration. -/
theorem typeAt_replaced {config : Config} (r : Registry) {owner base : String} {a : Attribute}
    (h : config.replacement? owner a.name = some base) :
    Property.typeAt config r owner a =
      ({ kind := .entity, name := (r.entityName? base).getD base, base,
         container := (r.typeOfRaw a.typeName).container }, true) := by
  have hcontainer : (Property.declaredType config r a).container =
      (r.typeOfRaw a.typeName).container := by
    cases hforced : config.forcedEnum? a.name <;> simp only [Property.declaredType, hforced]
  simp only [Property.typeAt, h, hcontainer]

/-- Two properties have types that are given in the place of the declared ones, of the same kind, name
and base; each is in the container that its attribute declares. -/
structure SameReplacement (r r' : Registry) (base : String) (a a' : Attribute) (p p' : Property) :
    Prop where
  replaced : p.replaced = true ∧ p'.replaced = true
  kind : p.type.kind = .entity ∧ p'.type.kind = .entity
  name : p'.type.name = p.type.name
  base : p.type.base = base ∧ p'.type.base = base
  container : p.type.container = (r.typeOfRaw a.typeName).container ∧
    p'.type.container = (r'.typeOfRaw a'.typeName).container
  /-- The types are the same exactly if the two declared types have the same container. -/
  same : p'.type = p.type ↔
    (r'.typeOfRaw a'.typeName).container = (r.typeOfRaw a.typeName).container

theorem sameReplacement_ofAttribute {config : Config} {r r' : Registry} {owner base : String}
    {a a' : Attribute} (hnames : r.SameNames r')
    (h : config.replacement? owner a.name = some base)
    (h' : config.replacement? owner a'.name = some base) (ofStrings : IndexKind)
    (declaredBy declaredBy' : String) :
    SameReplacement r r' base a a' (Property.ofAttribute config r ofStrings owner declaredBy a).1
      (Property.ofAttribute config r' ofStrings owner declaredBy' a').1 := by
  let p := (Property.ofAttribute config r ofStrings owner declaredBy a).1
  let p' := (Property.ofAttribute config r' ofStrings owner declaredBy' a').1
  have hp : (p.type, p.replaced) = _ := typeAt_replaced r h
  have hp' : (p'.type, p'.replaced) = _ := typeAt_replaced r' h'
  obtain ⟨htype, hreplaced⟩ := Prod.mk.inj hp
  obtain ⟨htype', hreplaced'⟩ := Prod.mk.inj hp'
  rw [hnames.entities] at htype'
  exact
    { replaced := ⟨hreplaced, hreplaced'⟩
      kind := ⟨by rw [htype], by rw [htype']⟩
      name := by rw [htype, htype']
      base := ⟨by rw [htype], by rw [htype']⟩
      container := ⟨by rw [htype], by rw [htype']⟩
      same := by rw [htype, htype', TargetType.mk.injEq]; simp }

/-- If a type is configured in the place of the one that an entity shows under a name, then whichever
order the entity lists its super-types in, it shows the name, and its property has that type, up to
the container; this after any calls, which are the same on both catalogs. -/
theorem replaced_up_to_container (config : Config) (snapshot : Snapshot)
    (before after : List EntityType) (d : EntityType) (superTypes : List String)
    (history : List Call) (ofStrings : IndexKind) (key base : String)
    (hperm : superTypes.Perm d.superTypes)
    (hreplaced : config.replacement? d.name key = some base) :
    let listed : Snapshot := { snapshot with entities := before ++ d :: after }
    let listed' : Snapshot :=
      { snapshot with entities := before ++ { d with superTypes } :: after }
    let c := (ofSnapshot config listed).1
    let c' := (ofSnapshot config listed').1
    let s := ((history.mapM c.perform).run (.ofFindings (ofSnapshot config listed).2)).2
    let s' := ((history.mapM c'.perform).run (.ofFindings (ofSnapshot config listed').2)).2
    let shown := ((c.attributesOf d.name).run s).1
    let shown' := ((c'.attributesOf d.name).run s').1
    shown'.contains key = shown.contains key ∧
      ∀ o o', shown.find? key = some o → shown'.find? key = some o' →
        SameReplacement s.registry s'.registry base o.declaration o'.declaration
          (Property.ofAttribute config s.registry ofStrings d.name o.owner o.declaration).1
          (Property.ofAttribute config s'.registry ofStrings d.name o'.owner o'.declaration).1 := by
  intro listed listed' c c' s s' shown shown'
  obtain ⟨halike, hgenerates⟩ : c.Alike c' ∧ c'.generates = c.generates := alike_replaced rfl rfl
  have hmatches : c.Matches c' :=
    ⟨halike, hgenerates, named_ofSnapshot config listed, named_ofSnapshot config listed'⟩
  have htwins : Twins c c' s s' := twins_history hmatches (.ofFindings _ _) history
  have hshown : shown = (c.attributeClosure d.name).1 :=
    (gives_attributesOf d.name).answer htwins.sound
  have hshown' : shown' = (c'.attributeClosure d.name).1 :=
    (gives_attributesOf d.name).answer htwins.sound'
  rw [hshown, hshown']
  refine ⟨(reorders_ofSnapshot config snapshot before after d hperm).contains_attributeClosure _ key,
    fun o o' ho ho' => ?_⟩
  have hname : o.declaration.name = key := (of_find?_closure ho).named
  have hname' : o'.declaration.name = key := (of_find?_closure ho').named
  exact sameReplacement_ofAttribute htwins.names (hname ▸ hreplaced) (hname' ▸ hreplaced) ..

/-! ### Different containers -/

/-- Settings under which another type takes the place of the one that a table's owner has. -/
def replacedOwner : Config := ({} : Config).replaceType "Table" "owner" "Person"

/-- An attribute with one value, and one of the same name with many. -/
def oneOwner : Attribute := { name := "owner", typeName := "string" }

def manyOwners : Attribute := { name := "owner", typeName := "array<string>" }

/-- Entities each of which declares one of the attributes. -/
def owned : List EntityType :=
  [{ name := "Asset", attributes := [oneOwner] }, { name := "Shared", attributes := [manyOwners] }]

/-- An entity that declares nothing, with both as super-types. -/
def sharedTable : EntityType := { name := "Table", superTypes := ["Asset", "Shared"] }

/-- The catalog in which the table lists its super-types in a given order. -/
def ownedTable (superTypes : List String) : Snapshot :=
  { entities := owned ++ { sharedTable with superTypes } :: [] }

theorem lineage_ownedTable :
    (ofSnapshot replacedOwner (ownedTable ["Asset", "Shared"])).1.lineage "Table" =
        ["Table", "Asset", "Shared"] ∧
      (ofSnapshot replacedOwner (ownedTable ["Shared", "Asset"])).1.lineage "Table" =
        ["Table", "Shared", "Asset"] := by
  have hasset : ∀ superTypes,
      (ofSnapshot replacedOwner (ownedTable superTypes)).1.superTypes "Asset" = [] :=
    fun superTypes => superTypes_ofSnapshot ..
  have hshared : ∀ superTypes,
      (ofSnapshot replacedOwner (ownedTable superTypes)).1.superTypes "Shared" = [] :=
    fun superTypes => superTypes_ofSnapshot ..
  have htable : ∀ superTypes,
      (ofSnapshot replacedOwner (ownedTable superTypes)).1.superTypes "Table" = superTypes :=
    fun superTypes => superTypes_ofSnapshot ..
  constructor <;>
    simp [Catalog.lineage, Catalog.lineageFrom_cons, Catalog.lineageFrom_nil, hasset, hshared, htable]

/-- The table shows the attribute that its first super-type declares. -/
theorem shown_ownedTable :
    ((ofSnapshot replacedOwner (ownedTable ["Asset", "Shared"])).1.attributeClosure
        "Table").1.find? "owner" = some ⟨"Asset", oneOwner⟩ ∧
      ((ofSnapshot replacedOwner (ownedTable ["Shared", "Asset"])).1.attributeClosure
        "Table").1.find? "owner" = some ⟨"Shared", manyOwners⟩ := by
  rw [attributeClosure, attributeClosure, find?_closure, find?_closure, lineage_ownedTable.1,
    lineage_ownedTable.2]
  decide +kernel

/-- After the entities are named, the table's owner is a person, in either order of super-types. -/
theorem owner_replaced :
    let c := (ofSnapshot replacedOwner (ownedTable ["Asset", "Shared"])).1
    let c' := (ofSnapshot replacedOwner (ownedTable ["Shared", "Asset"])).1
    let fresh := Store.ofFindings (ofSnapshot replacedOwner (ownedTable ["Asset", "Shared"])).2
    let fresh' := Store.ofFindings (ofSnapshot replacedOwner (ownedTable ["Shared", "Asset"])).2
    let named := [Call.act .nameEntities]
    let s := ((named.mapM c.perform).run fresh).2
    let s' := ((named.mapM c'.perform).run fresh').2
    (["Shared", "Asset"].Perm sharedTable.superTypes ∧
      replacedOwner.replacement? sharedTable.name "owner" = some "Person") ∧
      SameReplacement s.registry s'.registry "Person" oneOwner manyOwners
        (Property.ofAttribute replacedOwner s.registry .keyword "Table" "Asset" oneOwner).1
        (Property.ofAttribute replacedOwner s'.registry .keyword "Table" "Shared" manyOwners).1 := by
  intro c c' fresh fresh' named s s'
  have hperm : ["Shared", "Asset"].Perm sharedTable.superTypes := by decide
  have hreplaced : replacedOwner.replacement? sharedTable.name "owner" = some "Person" := by
    decide +kernel
  have h := replaced_up_to_container replacedOwner {} owned [] sharedTable ["Shared", "Asset"]
    named .keyword "owner" "Person" hperm hreplaced
  refine ⟨⟨hperm, hreplaced⟩, h.2 ⟨"Asset", oneOwner⟩ ⟨"Shared", manyOwners⟩ ?_ ?_⟩
  · rw [(gives_attributesOf _).answer (history_of_sound _ (.ofFindings _)).2]
    exact shown_ownedTable.1
  · rw [(gives_attributesOf _).answer (history_of_sound _ (.ofFindings _)).2]
    exact shown_ownedTable.2

/-- But in one order it is a single person, and in the other one it is many. -/
theorem owner_container_changes :
    let c := (ofSnapshot replacedOwner (ownedTable ["Asset", "Shared"])).1
    let c' := (ofSnapshot replacedOwner (ownedTable ["Shared", "Asset"])).1
    let fresh := Store.ofFindings (ofSnapshot replacedOwner (ownedTable ["Asset", "Shared"])).2
    let fresh' := Store.ofFindings (ofSnapshot replacedOwner (ownedTable ["Shared", "Asset"])).2
    replacedOwner.replacement? "Table" "owner" = some "Person" ∧
      ∃ o o', ((c.attributesOf "Table").run fresh).1.find? "owner" = some o ∧
        ((c'.attributesOf "Table").run fresh').1.find? "owner" = some o' ∧
        (Property.ofAttribute replacedOwner {} .keyword "Table" o.owner o.declaration).1.type =
          { kind := .entity, name := "Person", base := "Person" } ∧
        (Property.ofAttribute replacedOwner {} .keyword "Table" o'.owner o'.declaration).1.type =
          { kind := .entity, name := "Person", base := "Person",
            container := some .sortedSet } := by
  intro c c' fresh fresh'
  refine ⟨by decide +kernel, ⟨"Asset", oneOwner⟩, ⟨"Shared", manyOwners⟩, ?_, ?_,
    by decide +kernel, by decide +kernel⟩
  · rw [(gives_attributesOf _).answer (.ofFindings _)]
    exact shown_ownedTable.1
  · rw [(gives_attributesOf _).answer (.ofFindings _)]
    exact shown_ownedTable.2

end TypeCatalog
