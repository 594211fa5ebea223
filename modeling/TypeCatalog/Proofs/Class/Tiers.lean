import TypeCatalog.Proofs.Catalog
import TypeCatalog.Proofs.Class.Entity
import TypeCatalog.Proofs.Class.PropertySets
import TypeCatalog.Proofs.Inheritance.Visibility

/-!
The tiers of an entity's class. What is shown and what is added to the asset type is told apart by
the names of attributes, but a tier is keyed by the names of properties, and internal attributes
are left out of it last. Main statements: `Tiers.splits_iff` and `tiers_split_iff_apart`, which say
when the properties that a class shows are split between it and the class that it extends.
-/

namespace TypeCatalog
open Catalog

/-! ### Closures -/

section
variable {α : Type} {m : Member α} {out : Owned α → Prop} {closure base : Closure α}

/-- Every declaration stands under its own name. -/
def Filed (m : Member α) (closure : Closure α) : Prop :=
  ∀ key o, closure.find? key = some o → m.name o.declaration = key

theorem filed_closure (c : Catalog) (passes : String → α → Bool) (name : String) :
    Filed m (c.closure m passes name).1 :=
  fun _ _ h => (of_find?_closure h).named

theorem Filed.without (h : Filed m closure) (base : Closure α) :
    Filed m (Catalog.without closure base) :=
  fun key o ho => h key o (find?_of_without ho)

/-- A declaration under a name is of a sort that is put out. -/
def Exposes (out : Owned α → Prop) (closure : Closure α) (key : String) : Prop :=
  ∃ o, closure.find? key = some o ∧ out o

theorem exposes_without {key : String} :
    Exposes out (without closure base) key ↔
      Exposes out closure key ∧ base.contains key = false := by
  simp only [Exposes, find?_without]
  cases base.contains key <;> simp

/-- What is put out of a closure and of another one, the base, gets different property names unless
it is in both; and what is in both but not put out of the base shares its property name with
something that is put out of the base, or of the closure alone. -/
structure Apart (out : Owned α → Prop) (rename : String → String) (closure base : Closure α) :
    Prop where
  renamed : ∀ key key', Exposes out closure key → base.contains key = false →
    Exposes out base key' → rename key ≠ rename key'
  hidden : ∀ key, Exposes out closure key → base.contains key = true → ¬ Exposes out base key →
    ∃ key', rename key' = rename key ∧
      (Exposes out base key' ∨ Exposes out closure key' ∧ base.contains key' = false)

theorem contains_of_exposes {key : String} (h : Exposes out closure key) :
    closure.contains key = true := by
  obtain ⟨o, ho, -⟩ := h
  rw [KeyMap.contains, ho]
  rfl

/-- Two closures are apart if no two of their names give one property name, and whatever is put out
of the first one and is in the base is put out of the base too. -/
theorem apart_of_injective {rename : String → String}
    (hrename : ∀ key key', closure.contains key = true → base.contains key' = true →
      rename key = rename key' → key = key')
    (hkept : ∀ key, Exposes out closure key → base.contains key = true → Exposes out base key) :
    Apart out rename closure base where
  renamed key key' hkey hnew hkey' he := by
    have hbase : base.contains key' = true := contains_of_exposes hkey'
    rw [← hrename key key' (contains_of_exposes hkey) hbase he, hnew] at hbase
    cases hbase
  hidden key hkey hold hnot := absurd (hkept key hkey hold) hnot

end

/-! ### Splitting -/

/-- The properties that a class shows are split between those that it adds and those of the class
that it extends. -/
structure Tiers.Splits (t base : Tiers) : Prop where
  apart : ∀ n, t.added.contains n = true → base.added.contains n = false
  covered : ∀ n, t.shown.contains n = true →
    t.added.contains n = true ∨ base.added.contains n = true

/-- A set has the names of what is put out of a closure. -/
def PropertySet.Names {α : Type} (s : PropertySet) (out : Owned α → Prop)
    (rename : String → String) (closure : Closure α) : Prop :=
  ∀ n, s.contains n = true ↔ ∃ key, Exposes out closure key ∧ rename key = n

/-- In a closure that is filed, the names are those under which the declarations stand. -/
theorem PropertySet.Names.of_contains {α : Type} {m : Member α} {s : PropertySet}
    {out : Owned α → Prop} {rename : String → String} {closure : Closure α}
    (hfiled : Filed m closure)
    (h : ∀ n, s.contains n = true ↔
      ∃ o ∈ closure.values, out o ∧ rename (m.name o.declaration) = n) :
    s.Names out rename closure := by
  intro n
  simp only [h, KeyMap.mem_values_iff]
  constructor
  · rintro ⟨o, ⟨key, hkey⟩, hout, rfl⟩
    exact ⟨key, ⟨o, hkey, hout⟩, by rw [hfiled key o hkey]⟩
  · rintro ⟨key, ⟨o, hkey, hout⟩, rfl⟩
    exact ⟨o, ⟨key, hkey⟩, hout, by rw [hfiled key o hkey]⟩

/-- Tiers that are made of closures split exactly if the closures are apart. -/
theorem Tiers.splits_iff {α : Type} {t base : Tiers} {out : Owned α → Prop}
    {rename : String → String} {closure basic : Closure α}
    (hshown : t.shown.Names out rename closure)
    (hadded : t.added.Names out rename (without closure basic))
    (hbasic : base.added.Names out rename basic) :
    t.Splits base ↔ Apart out rename closure basic := by
  constructor
  · rintro ⟨hapart, hcovered⟩
    constructor
    · intro key key' hkey hnew hkey' he
      have hnot := hapart _ ((hadded _).2 ⟨key, exposes_without.2 ⟨hkey, hnew⟩, rfl⟩)
      rw [(hbasic _).2 ⟨key', hkey', he.symm⟩] at hnot
      cases hnot
    · intro key hkey _ _
      rcases hcovered _ ((hshown _).2 ⟨key, hkey, rfl⟩) with h | h
      · obtain ⟨key', hkey', he⟩ := (hadded _).1 h
        exact ⟨key', he, .inr (exposes_without.1 hkey')⟩
      · obtain ⟨key', hkey', he⟩ := (hbasic _).1 h
        exact ⟨key', he, .inl hkey'⟩
  · rintro ⟨hrenamed, hhidden⟩
    constructor
    · intro n hn
      obtain ⟨key, hkey, rfl⟩ := (hadded n).1 hn
      obtain ⟨hkey, hnew⟩ := exposes_without.1 hkey
      rw [Bool.eq_false_iff]
      intro hb
      obtain ⟨key', hkey', he⟩ := (hbasic _).1 hb
      exact hrenamed key key' hkey hnew hkey' he.symm
    · intro n hn
      obtain ⟨key, hkey, rfl⟩ := (hshown n).1 hn
      cases hold : basic.contains key with
      | false => exact .inl ((hadded _).2 ⟨key, exposes_without.2 ⟨hkey, hold⟩, rfl⟩)
      | true =>
        by_cases hb : Exposes out basic key
        · exact .inr ((hbasic _).2 ⟨key, hb, rfl⟩)
        · obtain ⟨key', he, hb | ha⟩ := hhidden key hkey hold hb
          · exact .inr ((hbasic _).2 ⟨key', hb, he⟩)
          · exact .inl ((hadded _).2 ⟨key', exposes_without.2 ha, he⟩)

/-! ### Tiers of entities -/

section
variable {c : Catalog} {r r' : Registry} {owner name : String} {d base : EntityType}

/-- An attribute is put out unless it is internal. -/
def Catalog.External (c : Catalog) (o : Owned Attribute) : Prop :=
  o.declaration.typeName ≠ c.config.internalType

theorem contains_propertiesOf {closure : Closure Attribute} {n : String} :
    (PropertySet.insertMade owner ∅ (c.propertiesOf r owner closure)).1.contains n = true ↔
      ∃ o ∈ closure.values, c.External o ∧ c.config.propertyNameOf o.declaration.name = n := by
  rw [propertiesOf, PropertySet.contains_made]
  simp only [List.mem_filter, decide_eq_true_eq, and_assoc]
  exact Iff.rfl

theorem contains_relationshipPropertiesOf {closure : Closure RelationshipAttribute} {n : String} :
    (PropertySet.insertMade owner ∅ (c.relationshipPropertiesOf r owner closure)).1.contains n =
        true ↔
      ∃ o ∈ closure.values, True ∧ c.config.propertyNameOf o.declaration.name = n := by
  rw [relationshipPropertiesOf, PropertySet.contains_made]
  simp only [true_and]
  exact Iff.rfl

theorem names_propertiesOf {closure : Closure Attribute} (hfiled : Filed .attributes closure) :
    (PropertySet.insertMade owner ∅ (c.propertiesOf r owner closure)).1.Names c.External
      c.config.propertyNameOf closure :=
  .of_contains hfiled fun _ => contains_propertiesOf

theorem names_relationshipPropertiesOf {closure : Closure RelationshipAttribute}
    (hfiled : Filed .relationships closure) :
    (PropertySet.insertMade owner ∅ (c.relationshipPropertiesOf r owner closure)).1.Names
      (fun _ => True) c.config.propertyNameOf closure :=
  .of_contains hfiled fun _ => contains_relationshipPropertiesOf

/-- The attributes of an entity's class split from those of the asset type's class exactly if what
the two entities show is apart. -/
theorem attributes_split_iff (hadds : c.isBase d.name = false)
    (hbase : base.name = c.config.assetType) :
    (EntityClass.ofType c r d (c.shownOn d.name).1).1.attributes.Splits
        (EntityClass.ofType c r' base (c.shownOn base.name).1).1.attributes ↔
      Apart c.External c.config.propertyNameOf (c.attributeClosure d.name).1
        (c.attributeClosure c.config.assetType).1 := by
  have hfiled := filed_closure (m := .attributes) c c.passesAttribute
  have hadded : (c.shownOn d.name).1.addedAttributes =
      without (c.attributeClosure d.name).1 (c.attributeClosure c.config.assetType).1 := by
    rw [shownOn, addedAttributes, if_neg (by simp [hadds]), extraAttributes]
  have hbasic : (c.shownOn base.name).1.addedAttributes =
      (c.attributeClosure c.config.assetType).1 := by
    rw [shownOn, addedAttributes, if_pos (by simp [isBase, hbase]), hbase]
  refine Tiers.splits_iff (names_propertiesOf (hfiled d.name)) ?_ ?_
  · rw [← hadded]
    exact names_propertiesOf (hadded ▸ (hfiled d.name).without _)
  · rw [← hbasic]
    exact names_propertiesOf (hbasic ▸ hfiled c.config.assetType)

/-- The same holds of relationships. -/
theorem relationships_split_iff (hadds : c.isBase d.name = false)
    (hbase : base.name = c.config.assetType) :
    (EntityClass.ofType c r d (c.shownOn d.name).1).1.relationships.Splits
        (EntityClass.ofType c r' base (c.shownOn base.name).1).1.relationships ↔
      Apart (fun _ => True) c.config.propertyNameOf (c.relationshipClosure d.name).1
        (c.relationshipClosure c.config.assetType).1 := by
  have hfiled := filed_closure (m := .relationships) c c.passesRelationship
  have hadded : (c.shownOn d.name).1.addedRelationships =
      without (c.relationshipClosure d.name).1 (c.relationshipClosure c.config.assetType).1 := by
    rw [shownOn, addedRelationships, if_neg (by simp [hadds]), extraRelationships]
  have hbasic : (c.shownOn base.name).1.addedRelationships =
      (c.relationshipClosure c.config.assetType).1 := by
    rw [shownOn, addedRelationships, if_pos (by simp [isBase, hbase]), hbase]
  refine Tiers.splits_iff (names_relationshipPropertiesOf (hfiled d.name)) ?_ ?_
  · rw [← hadded]
    exact names_relationshipPropertiesOf (hadded ▸ (hfiled d.name).without _)
  · rw [← hbasic]
    exact names_relationshipPropertiesOf (hbasic ▸ hfiled c.config.assetType)

end

/-! ### Classes after a history -/

/-- The class of an entity that a catalog makes after some calls. -/
def EntityClass.after? (config : Config) (snapshot : Snapshot) (history : List Call)
    (name : String) : Option EntityClass :=
  let c := (Catalog.ofSnapshot config snapshot).1
  let fresh := Store.ofFindings (Catalog.ofSnapshot config snapshot).2
  ((c.entityClass? name).run ((history.mapM c.perform).run fresh).2).1

/-- Whatever a catalog did before, the class of an entity is made of what is visible on it. -/
theorem after?_eq (config : Config) (snapshot : Snapshot) (history : List Call) {name : String}
    (h : (Catalog.ofSnapshot config snapshot).1.entities.contains name = true) :
    let c := (Catalog.ofSnapshot config snapshot).1
    ∃ r d, c.entities.find? name = some d ∧ d.name = name ∧
      EntityClass.after? config snapshot history name =
        some (EntityClass.ofType c r d (c.shownOn d.name).1).1 := by
  intro c
  obtain ⟨d, hd⟩ := Option.isSome_iff_exists.1 h
  let fresh := Store.ofFindings (Catalog.ofSnapshot config snapshot).2
  let s := ((history.mapM c.perform).run fresh).2
  have hs : Sound c s := (history_of_sound history (.ofFindings _)).2
  have hgives : Gives c (· = s.registry) (fun _ => True) (c.entityClass? name)
      (c.classOf s.registry name) := gives_entityClass? name
  have hmade : EntityClass.after? config snapshot history name = (c.classOf s.registry name).1 :=
    (hgives.run (fun _ _ => trivial) ⟨hs, rfl, fun _ _ => trivial⟩).1
  refine ⟨s.registry, d, hd, name_of_find? hd, ?_⟩
  rw [hmade, classOf, hd, name_of_find? hd]

/-- The properties of a class, other than that of the root type, are split between it and the class
of the asset type exactly if what the two entities show is apart. Attributes and relationships are
split one by one, and of the relationships nothing is left out. -/
theorem tiers_split_iff_apart (config : Config) (snapshot : Snapshot)
    (history history' : List Call) (name : String)
    (hname : (Catalog.ofSnapshot config snapshot).1.entities.contains name = true)
    (hasset : (Catalog.ofSnapshot config snapshot).1.entities.contains config.assetType = true)
    (hroot : name ≠ config.rootType) (hadds : name ≠ config.assetType) :
    let c := (Catalog.ofSnapshot config snapshot).1
    ∃ made base, EntityClass.after? config snapshot history name = some made ∧
      EntityClass.after? config snapshot history' config.assetType = some base ∧
      (made.attributes.Splits base.attributes ↔
        Apart c.External config.propertyNameOf (c.attributeClosure name).1
          (c.attributeClosure config.assetType).1) ∧
      (made.relationships.Splits base.relationships ↔
        Apart (fun _ => True) config.propertyNameOf (c.relationshipClosure name).1
          (c.relationshipClosure config.assetType).1) := by
  intro c
  obtain ⟨r, d, -, hd, hmade⟩ := after?_eq config snapshot history hname
  obtain ⟨r', base, -, hb, hbase⟩ := after?_eq config snapshot history' hasset
  have hconfig : c.config = config := rfl
  have hnew : c.isBase d.name = false := by simp [isBase, hconfig, hd, hadds, hroot]
  refine ⟨_, _, hmade, hbase, ?_, ?_⟩
  · rw [← hd]
    exact attributes_split_iff hnew hb
  · rw [← hd]
    exact relationships_split_iff hnew hb

/-! ### Names that meet -/

/-- An asset type and two entities below it. One of them declares an attribute whose property is
called like one of the asset type's, and another one that is internal there; the other entity
declares none like this. -/
def metNames : Snapshot where
  entities := [
    { name := "Asset", attributes := [{ name := "fooBar", typeName := "string" },
        { name := "hidden", typeName := "__internal" }] },
    { name := "Table", superTypes := ["Asset"],
      attributes := [{ name := "foo_bar", typeName := "string" },
        { name := "hidden", typeName := "string" }] },
    { name := "View", superTypes := ["Asset"],
      attributes := [{ name := "query", typeName := "string" }] }]

theorem lineage_metNames :
    let c := (Catalog.ofSnapshot {} metNames).1
    c.lineage "Asset" = ["Asset"] ∧ c.lineage "Table" = ["Table", "Asset"] ∧
      c.lineage "View" = ["View", "Asset"] := by
  intro c
  have hasset : c.superTypes "Asset" = [] := by decide +kernel
  have htable : c.superTypes "Table" = ["Asset"] := by decide +kernel
  have hview : c.superTypes "View" = ["Asset"] := by decide +kernel
  simp [Catalog.lineage, Catalog.lineageFrom_cons, Catalog.lineageFrom_nil, hasset, htable, hview]

/-- What the asset type of these shows. -/
def assetClosure : Closure Attribute := .ofList [
  ("fooBar", ⟨"Asset", { name := "fooBar", typeName := "string" }⟩),
  ("hidden", ⟨"Asset", { name := "hidden", typeName := "__internal" }⟩)]

/-- What the entity shows whose names meet others. -/
def tableClosure : Closure Attribute := .ofList [
  ("fooBar", ⟨"Asset", { name := "fooBar", typeName := "string" }⟩),
  ("foo_bar", ⟨"Table", { name := "foo_bar", typeName := "string" }⟩),
  ("hidden", ⟨"Table", { name := "hidden", typeName := "string" }⟩)]

/-- What the other entity shows. -/
def viewClosure : Closure Attribute := .ofList [
  ("fooBar", ⟨"Asset", { name := "fooBar", typeName := "string" }⟩),
  ("hidden", ⟨"Asset", { name := "hidden", typeName := "__internal" }⟩),
  ("query", ⟨"View", { name := "query", typeName := "string" }⟩)]

theorem closures_metNames :
    let c := (Catalog.ofSnapshot {} metNames).1
    (c.attributeClosure "Asset").1 = assetClosure ∧
      (c.attributeClosure "Table").1 = tableClosure ∧
      (c.attributeClosure "View").1 = viewClosure := by
  intro c
  obtain ⟨hasset, htable, hview⟩ := lineage_metNames
  simp only [attributeClosure, Catalog.closure, hasset, htable, hview, c]
  decide +kernel

/-- Where no names meet, the properties are split. -/
theorem view_splits :
    ∃ made base, EntityClass.after? {} metNames [] "View" = some made ∧
      EntityClass.after? {} metNames [] "Asset" = some base ∧
      made.attributes.Splits base.attributes := by
  obtain ⟨made, base, hmade, hbase, hsplit, -⟩ := tiers_split_iff_apart {} metNames [] [] "View"
    (by decide +kernel) (by decide +kernel) (by decide) (by decide)
  refine ⟨made, base, hmade, hbase, hsplit.2 ?_⟩
  obtain ⟨hasset, -, hview⟩ := closures_metNames
  rw [hasset, hview]
  refine apart_of_injective (fun key key' hkey hkey' => ?_) fun key ⟨o, ho, hout⟩ hold => ?_
  · have hrename : ∀ key ∈ viewClosure.keys, ∀ key' ∈ assetClosure.keys,
        Config.propertyNameOf {} key = Config.propertyNameOf {} key' → key = key' := by
      decide +kernel
    exact hrename key (KeyMap.mem_keys_iff.2 hkey) key' (KeyMap.mem_keys_iff.2 hkey')
  · have hkept : ∀ e ∈ viewClosure.entries, assetClosure.contains e.1 = true →
        assetClosure.find? e.1 = some e.2 := by decide +kernel
    exact ⟨o, hkept (key, o) (KeyMap.mem_entries_iff.2 ho) hold, hout⟩

/-- A property may belong to both classes, and another one to none of them. -/
theorem table_does_not_split :
    ∃ made base, EntityClass.after? {} metNames [] "Table" = some made ∧
      EntityClass.after? {} metNames [] "Asset" = some base ∧
      (made.attributes.added.contains "fooBar" = true ∧
        base.attributes.added.contains "fooBar" = true) ∧
      made.attributes.shown.contains "hidden" = true ∧
      ¬ (made.attributes.added.contains "hidden" = true ∨
        base.attributes.added.contains "hidden" = true) := by
  obtain ⟨hasset, htable, -⟩ := closures_metNames
  obtain ⟨r, d, -, hd, hmade⟩ := after?_eq {} metNames []
    (show (ofSnapshot {} metNames).1.entities.contains "Table" = true by decide +kernel)
  obtain ⟨r', base, -, hb, hbase⟩ := after?_eq {} metNames []
    (show (ofSnapshot {} metNames).1.entities.contains "Asset" = true by decide +kernel)
  refine ⟨_, _, hmade, hbase, ?_⟩
  have hadds : (ofSnapshot {} metNames).1.isBase "Table" = false := by decide +kernel
  have hbasic : (ofSnapshot {} metNames).1.isBase "Asset" = true := by decide +kernel
  simp only [EntityClass.ofType, Tiers.ofMade, shownOn, addedAttributes, extraAttributes, hd, hb,
    hadds, hbasic, if_true, Bool.false_eq_true, if_false, contains_propertiesOf, External]
  rw [show (ofSnapshot {} metNames).1.config.assetType = "Asset" from rfl, hasset, htable]
  decide +kernel

end TypeCatalog
