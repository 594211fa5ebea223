import TypeCatalog.Proofs.Class.Alike
import TypeCatalog.Proofs.Inheritance.Cycles

/-!
What is found in making classes. Most findings are about what a type itself declares (`Local`); those
about other types tell of names without a definition and of cycles. Main statements:
`entityFinding_shownOn` and `entityFinding_ofType`, which tell all that can be found in making the
class of an entity.
-/

namespace TypeCatalog
open Relation Catalog

/-! ### Findings about declarations -/

/-- Whether findings of a kind are about declarations, and not about types that a type refers to. -/
def FindingKind.isLocal : FindingKind → Bool
  | .conflict | .repeatedIndex | .unknownCombination => true
  | .danglingReference | .undefinedType | .cyclicInheritance => false

/-- All findings are about declarations. -/
def Local (fs : List Finding) : Prop := ∀ f ∈ fs, f.kind.isLocal = true

namespace Local
variable {α : Type}

theorem nil : Local [] := fun _ hf => absurd hf List.not_mem_nil

theorem cons {f : Finding} {fs : List Finding} (hf : f.kind.isLocal = true) (h : Local fs) :
    Local (f :: fs) := List.forall_mem_cons.2 ⟨hf, h⟩

theorem append {fs gs : List Finding} (h : Local fs) (h' : Local gs) : Local (fs ++ gs) :=
  List.forall_mem_append.2 ⟨h, h'⟩

theorem flatMap {find : α → List Finding} {l : List α} (h : ∀ a ∈ l, Local (find a)) :
    Local (l.flatMap find) := by
  intro f hf
  obtain ⟨a, ha, hf⟩ := List.mem_flatMap.1 hf
  exact h a ha f hf

/-! #### Properties -/

theorem collect {owner subject : String} {l : List (IndexKind × String)}
    {fields : KeyMap IndexKind String} : Local (Searchability.collect owner subject l fields).2 := by
  induction l generalizing fields with
  | nil => exact nil
  | cons field rest ih =>
    rw [Searchability.collect]
    cases fields.find? field.1 with
    | none => exact ih
    | some earlier => exact cons rfl ih

theorem ofFields {owner subject : String} {fields : KeyMap IndexKind String} :
    Local (Searchability.ofFields owner subject fields).2 := by
  rw [Searchability.ofFields]
  split
  · exact nil
  · dsimp only
    split
    · exact nil
    · exact cons rfl nil

theorem ofAttribute {config : Config} {r : Registry} {ofStrings : IndexKind}
    {owner declaredBy : String} (a : Attribute) :
    Local (Property.ofAttribute config r ofStrings owner declaredBy a).2 :=
  append collect ofFields

theorem ofRelationship {config : Config} {r : Registry} {owner declaredBy : String}
    (a : RelationshipAttribute) : Local (Property.ofRelationship config r owner declaredBy a).2 :=
  ofFields

theorem insertAll {owner : String} {l : List Property} {s : PropertySet} :
    Local (PropertySet.insertAll owner s l).2 := by
  induction l generalizing s with
  | nil => exact nil
  | cons p rest ih =>
    have hinsert : Local (s.insert owner p).2 := by
      rw [PropertySet.insert]
      cases s.get? p.name with
      | some kept => exact cons rfl nil
      | none => exact nil
    exact hinsert.append ih

theorem insertMade {owner : String} {s : PropertySet} {made : List (Property × List Finding)}
    (h : ∀ p ∈ made, Local p.2) : Local (PropertySet.insertMade owner s made).2 :=
  append (flatMap h) insertAll

theorem map {β : Type} {make : α → β × List Finding} (h : ∀ a, Local (make a).2) {l : List α} :
    ∀ p ∈ l.map make, Local p.2 :=
  List.forall_mem_map.2 fun a _ => h a

theorem tiers {owner : String} {shown added own : List (Property × List Finding)}
    (hshown : ∀ p ∈ shown, Local p.2) (hadded : ∀ p ∈ added, Local p.2)
    (hown : ∀ p ∈ own, Local p.2) : Local (Tiers.ofMade owner shown added own).2 :=
  ((insertMade hown).append (insertMade hadded)).append (insertMade hshown)

/-! #### Classes of what inherits nothing -/

theorem keepFirst {owner : String} {l : List EnumConstant} {taken : KeySet String} :
    Local (EnumClass.keepFirst owner taken l).2 := by
  induction l generalizing taken with
  | nil => exact nil
  | cons k rest ih =>
    rw [EnumClass.keepFirst]
    split
    · exact cons rfl ih
    · exact ih

theorem enum {config : Config} (d : EnumType) : Local (EnumClass.ofType config d).2 :=
  keepFirst

theorem struct {config : Config} {r : Registry} (d : StructType) :
    Local (StructClass.ofType config r d).2 :=
  insertMade (map ofAttribute)

/-! #### Catalogs and closures -/

theorem indexByName {name : α → String} {kind : String} {l : List α} {index : KeyMap String α} :
    Local (Catalog.indexByName name kind l index).2 := by
  induction l generalizing index with
  | nil => exact nil
  | cons d rest ih =>
    rw [Catalog.indexByName]
    split
    · exact cons rfl ih
    · exact ih

theorem ofSnapshot (config : Config) (snapshot : Snapshot) :
    Local (Catalog.ofSnapshot config snapshot).2 :=
  append (append (append indexByName indexByName) indexByName) indexByName

theorem gather {m : Member α} {target : String} {l : List (Owned α)} {closure : Closure α} :
    Local (Catalog.gather m target l closure).2 := by
  induction l generalizing closure with
  | nil => exact nil
  | cons o rest ih =>
    rw [Catalog.gather]
    cases closure.find? (m.name o.declaration) with
    | some kept => exact cons rfl ih
    | none => exact ih

end Local

/-! ### Findings about other types -/

variable {α : Type} {c : Catalog} {r : Registry}

/-- The finding that an entity lists a super-type whose class is not known. -/
def Catalog.unknownSuperClass (owner superType : String) : Finding :=
  ⟨.danglingReference, owner, superType, "super-type has no registered class name"⟩

/-- Once all classes have names, the super-types that are defined are all listed, and the others are
found. -/
theorem superClassesOf_settled (hr : r.Settled c) (owner : String) (superTypes : List String) :
    r.superClassesOf owner superTypes =
      ((superTypes.filter c.entities.contains).map c.config.classNameOf,
        (superTypes.filter fun n => !c.entities.contains n).map (unknownSuperClass owner)) := by
  induction superTypes with
  | nil => rfl
  | cons superType rest ih =>
    rw [Registry.superClassesOf, ih, hr.entities]
    cases hd : c.entities.contains superType with
    | false => simp [hd, unknownSuperClass]
    | true => simp [hd]

/-- What can be found in making the class of an entity: something about declarations, a name above
the entity or above the asset type that has no definition, what is found on walks from the entity,
and sub-types and super-types that it lists and that have no definition. -/
inductive Catalog.EntityFinding (c : Catalog) (d : EntityType) : Finding → Prop
  | ofDeclarations {f : Finding} : f.kind.isLocal = true → EntityFinding c d f
  | unknownAncestor {target type : String} : target = d.name ∨ target = c.config.assetType →
      ReflTransGen c.Extends target type → c.entities.contains type = false →
      EntityFinding c d (undefinedAncestor target type)
  | above {f : Finding} : c.FoundAbove d.name f → EntityFinding c d f
  | unknownSubType {type : String} : type ∈ d.subTypes → c.entities.contains type = false →
      EntityFinding c d (undefinedSubType d.name type)
  | unknownSuperType {type : String} : type ∈ d.superTypes → c.entities.contains type = false →
      EntityFinding c d (unknownSuperClass d.name type)

/-- Of several names those are found that have no definition. -/
theorem mem_unknown {names : List String} {find : String → Finding} {f : Finding} :
    f ∈ (names.filter fun n => !c.entities.contains n).map find ↔
      ∃ type ∈ names, c.entities.contains type = false ∧ find type = f := by
  simp only [List.mem_map, List.mem_filter, Bool.not_eq_true', and_assoc]

/-- In gathering a closure, the names above the entity that have no definition are all found. -/
theorem unknownAncestor_mem_closure {m : Member α} {passes : String → α → Bool}
    {target type : String} (hreach : ReflTransGen c.Extends target type)
    (hd : c.entities.contains type = false) :
    undefinedAncestor target type ∈ (c.closure m passes target).2 :=
  List.mem_append_right _ (mem_unknown.2 ⟨type, mem_lineage.2 hreach, hd, rfl⟩)

variable {d : EntityType}

/-- And nothing else is found that is about other types. -/
theorem entityFinding_closure {m : Member α} {passes : String → α → Bool} {target : String}
    (htarget : target = d.name ∨ target = c.config.assetType) :
    ∀ f ∈ (c.closure m passes target).2, c.EntityFinding d f := by
  intro f hf
  rcases List.mem_append.1 hf with hf | hf
  · exact .ofDeclarations (Local.gather f hf)
  · obtain ⟨type, hmem, hd, rfl⟩ := mem_unknown.1 hf
    exact .unknownAncestor htarget (mem_lineage.1 hmem) hd

/-- What is left of a closure without the asset type's is found in gathering both. -/
theorem entityFinding_extra {m : Member α} {passes : String → α → Bool} :
    ∀ f ∈ (c.closure m passes c.config.assetType).2 ++ (c.closure m passes d.name).2,
      c.EntityFinding d f :=
  List.forall_mem_append.2 ⟨entityFinding_closure (.inr rfl), entityFinding_closure (.inl rfl)⟩

theorem entityFinding_introduced : ∀ f ∈ (c.introduced d.name).2, c.EntityFinding d f := by
  intro f hf
  rw [introduced] at hf
  split at hf
  · exact .above (foundAbove_climb (leadsTo_nil d.name) hf)
  · cases hf

/-- What is found in working out what is visible on an entity. -/
theorem entityFinding_shownOn : ∀ f ∈ (c.shownOn d.name).2, c.EntityFinding d f := by
  have hadded : ∀ f ∈ (c.addedAttributes d.name).2, c.EntityFinding d f := by
    rw [addedAttributes]
    split
    · exact entityFinding_closure (.inl rfl)
    · exact entityFinding_extra
  have haddedRelationships : ∀ f ∈ (c.addedRelationships d.name).2, c.EntityFinding d f := by
    rw [addedRelationships]
    split
    · exact entityFinding_closure (.inl rfl)
    · exact entityFinding_extra
  simp only [shownOn, List.forall_mem_append]
  exact ⟨hadded, entityFinding_closure (.inl rfl), entityFinding_introduced, haddedRelationships,
    entityFinding_closure (.inl rfl)⟩

/-- What is found in making the class of an entity of what is visible on it. -/
theorem entityFinding_ofType (hr : r.Settled c) (v : Visible) :
    ∀ f ∈ (EntityClass.ofType c r d v).2, c.EntityFinding d f := by
  have hattributes : ∀ closure, ∀ p ∈ c.propertiesOf r d.name closure, Local p.2 :=
    fun closure => Local.map fun _ => Local.ofAttribute _
  have hrelationships : ∀ closure, ∀ p ∈ c.relationshipPropertiesOf r d.name closure, Local p.2 :=
    fun closure => Local.map fun _ => Local.ofRelationship _
  simp only [EntityClass.ofType, subClassesOf_settled hr, superClassesOf_settled hr,
    List.forall_mem_append]
  refine ⟨⟨⟨fun f hf => ?_, fun f hf => ?_⟩, fun f hf => .ofDeclarations ?_⟩,
    fun f hf => .ofDeclarations ?_⟩
  · obtain ⟨type, hmem, hd, rfl⟩ := mem_unknown.1 hf
    exact .unknownSubType hmem hd
  · obtain ⟨type, hmem, hd, rfl⟩ := mem_unknown.1 hf
    exact .unknownSuperType hmem hd
  · exact Local.tiers (hattributes _) (hattributes _) (Local.map Local.ofAttribute) f hf
  · exact Local.tiers (hrelationships _) (hrelationships _) (Local.map Local.ofRelationship) f hf

/-- Sub-types and super-types that an entity lists and that have no definition are all found. -/
theorem unknownListed_mem_ofType (hr : r.Settled c) (v : Visible) {type : String}
    (hd : c.entities.contains type = false) :
    (type ∈ d.subTypes → undefinedSubType d.name type ∈ (EntityClass.ofType c r d v).2) ∧
      (type ∈ d.superTypes → unknownSuperClass d.name type ∈ (EntityClass.ofType c r d v).2) := by
  simp only [EntityClass.ofType, subClassesOf_settled hr, superClassesOf_settled hr, List.mem_append]
  exact ⟨fun h => .inl (.inl (.inl (mem_unknown.2 ⟨type, h, hd, rfl⟩))),
    fun h => .inl (.inl (.inr (mem_unknown.2 ⟨type, h, hd, rfl⟩)))⟩

/-! ### Roles -/

/-- The entity in a role is found if it has no definition. -/
theorem found_ofRole (hr : r.Settled c) (relationship : String) (role : Role) :
    (RoleClass.ofRole c.config r relationship role).2 =
      if c.entities.contains role.entity = true then []
      else [RoleClass.unknownEntity relationship role] := by
  rw [RoleClass.ofRole, hr.entities]
  split <;> rfl

/-- What is found in making the class of a relationship is about its declarations, or it is that an
entity in one of its roles has no definition. -/
theorem found_relationship (hr : r.Settled c) (d : RelationshipType) {f : Finding}
    (hf : f ∈ (RelationshipClass.ofType c.config r d).2) :
    f.kind.isLocal = true ∨ ∃ role, (role = d.first ∨ role = d.second) ∧
      c.entities.contains role.entity = false ∧ f = RoleClass.unknownEntity d.name role := by
  have hrole : ∀ role, f ∈ (RoleClass.ofRole c.config r d.name role).2 →
      c.entities.contains role.entity = false ∧ f = RoleClass.unknownEntity d.name role := by
    intro role hf
    rw [found_ofRole hr] at hf
    split at hf
    next => cases hf
    next hd => exact ⟨Bool.eq_false_iff.2 hd, List.mem_singleton.1 hf⟩
  rcases List.mem_append.1 hf with hf | hf
  · rcases List.mem_append.1 hf with hf | hf
    · exact .inr ⟨d.first, .inl rfl, hrole _ hf⟩
    · exact .inr ⟨d.second, .inr rfl, hrole _ hf⟩
  · exact .inl (Local.insertMade (Local.map Local.ofAttribute) f hf)

/-- Entities in the roles of a relationship that have no definition are all found. -/
theorem unknownEntity_mem_relationship (hr : r.Settled c) {d : RelationshipType} {role : Role}
    (hrole : role = d.first ∨ role = d.second) (hd : c.entities.contains role.entity = false) :
    RoleClass.unknownEntity d.name role ∈ (RelationshipClass.ofType c.config r d).2 := by
  have hfound : RoleClass.unknownEntity d.name role ∈
      (RoleClass.ofRole c.config r d.name role).2 := by
    rw [found_ofRole hr, hd]
    exact List.mem_singleton_self _
  rcases hrole with rfl | rfl
  · exact List.mem_append_left _ (List.mem_append_left _ hfound)
  · exact List.mem_append_left _ (List.mem_append_right _ hfound)

end TypeCatalog
