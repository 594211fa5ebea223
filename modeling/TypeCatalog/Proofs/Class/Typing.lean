import TypeCatalog.Proofs.Class.Entity
import TypeCatalog.Proofs.Class.Names
import TypeCatalog.Proofs.Class.PropertySets
import TypeCatalog.Proofs.Inheritance.Visibility

/-!
The types of properties, told by the catalog alone. Which type an attribute has in a class depends
on the settings and on which names are defined (`Catalog.Types`), but not on which classes are made
already, once all of them have names (`Registry.Settled`). Main statements: `types_typeAt`, and
`typed_struct`, `typed_relationship` and `typed_entity` for the classes that are made then.
-/

namespace TypeCatalog
open Catalog

/-! ### What the catalog says -/

/-- What a bare name denotes: a primitive, or else what is defined under it, an enumeration before a
struct before an entity, or else an entity that is not known, which is called like this. -/
inductive Catalog.Denotes (c : Catalog) (base : String) : TargetKind → String → Prop
  | primitive (p : Primitive) (h : Primitive.ofRaw? base = some p) :
      Denotes c base .primitive p.className
  | enumeration (hprimitive : Primitive.ofRaw? base = none) (h : c.enums.contains base = true) :
      Denotes c base .enumeration (c.config.classNameOf base)
  | struct (hprimitive : Primitive.ofRaw? base = none) (henum : c.enums.contains base = false)
      (h : c.structs.contains base = true) : Denotes c base .struct (c.config.classNameOf base)
  | entity (hprimitive : Primitive.ofRaw? base = none) (henum : c.enums.contains base = false)
      (hstruct : c.structs.contains base = false) (h : c.entities.contains base = true) :
      Denotes c base .entity (c.config.classNameOf base)
  | unknown (hprimitive : Primitive.ofRaw? base = none) (henum : c.enums.contains base = false)
      (hstruct : c.structs.contains base = false) (h : c.entities.contains base = false) :
      Denotes c base .entity base

/-- The type of an attribute at an owning type, and whether a replacement gave it. -/
inductive Catalog.Types (c : Catalog) (owner : String) (a : Attribute) (t : TargetType) :
    Bool → Prop
  | replaced (h : c.config.replacement? owner a.name = some t.base) (hkind : t.kind = .entity)
      (hname : t.name = if c.entities.contains t.base = true then c.config.classNameOf t.base
        else t.base) : Types c owner a t true
  | forced (hreplace : c.config.replacement? owner a.name = none)
      (h : c.config.forcedEnum? a.name = some t.base) (hkind : t.kind = .enumeration)
      (hname : t.name = c.config.classNameOf t.base) : Types c owner a t false
  | declared (hreplace : c.config.replacement? owner a.name = none)
      (hforce : c.config.forcedEnum? a.name = none) (hbase : t.base = (TypeName.split a.typeName).2)
      (h : c.Denotes t.base t.kind t.name) : Types c owner a t false

/-- A property comes from an attribute that is declared and has its type at the owner. -/
def Property.Typed (c : Catalog) (owner : String) (declares : String → Attribute → Prop)
    (p : Property) : Prop :=
  ∃ a, declares p.declaredBy a ∧ a.name = p.source ∧ c.Types owner a p.type p.replaced

/-- All properties of a set come from attributes that are declared, and have their types. -/
def PropertySet.Typed (c : Catalog) (owner : String) (declares : String → Attribute → Prop)
    (s : PropertySet) : Prop :=
  ∀ p ∈ s.toList, p.Typed c owner declares

/-- All properties in all tiers come from attributes that are declared, and have their types. -/
structure Tiers.Typed (c : Catalog) (owner : String) (declares : String → Attribute → Prop)
    (t : Tiers) : Prop where
  shown : t.shown.Typed c owner declares
  added : t.added.Typed c owner declares
  own : t.own.Typed c owner declares

namespace Catalog

/-- A struct declares an attribute. -/
def StructDeclares (c : Catalog) (type : String) (a : Attribute) : Prop :=
  ∃ d, c.structs.find? type = some d ∧ a ∈ d.attributes

/-- A relationship declares an attribute. -/
def RelationshipDeclares (c : Catalog) (type : String) (a : Attribute) : Prop :=
  ∃ d, c.relationships.find? type = some d ∧ a ∈ d.attributes

/-- An entity declares an attribute. -/
def EntityDeclares (c : Catalog) (type : String) (a : Attribute) : Prop :=
  ∃ d, c.entities.find? type = some d ∧ a ∈ d.attributes

/-- An entity declares a relationship attribute. -/
def EntityRelates (c : Catalog) (type : String) (a : Attribute) : Prop :=
  ∃ d, c.entities.find? type = some d ∧ ∃ b ∈ d.relationshipAttributes, b.toAttribute = a

end Catalog

/-! ### Registries in which all classes have names -/

/-- The class names that are known are those of all enumerations, structs and entities that are
defined. -/
structure Registry.Settled (c : Catalog) (r : Registry) : Prop where
  enums : ∀ base, r.enumName? base =
    if c.enums.contains base = true then some (c.config.classNameOf base) else none
  structs : ∀ base, r.structName? base =
    if c.structs.contains base = true then some (c.config.classNameOf base) else none
  entities : ∀ base, r.entityName? base =
    if c.entities.contains base = true then some (c.config.classNameOf base) else none

namespace Registry.Settled
variable {c : Catalog} {r r' : Registry}

/-- All registries in which all classes have names know them by the same ones. -/
theorem sameNames (h : r.Settled c) (h' : r'.Settled c) : r.SameNames r' where
  enums := funext fun base => by rw [h.enums, h'.enums]
  structs := funext fun base => by rw [h.structs, h'.structs]
  entities := funext fun base => by rw [h.entities, h'.entities]

theorem of_sameNames (h : r.Settled c) (hsame : r.SameNames r') : r'.Settled c where
  enums base := by rw [hsame.enums, h.enums]
  structs base := by rw [hsame.structs, h.structs]
  entities base := by rw [hsame.entities, h.entities]

/-- A struct class that takes the place of a known one with the same name changes no name. -/
theorem addStruct (h : r.Settled c) {made : StructClass}
    (hdefined : c.structs.contains made.source = true)
    (hname : made.name = c.config.classNameOf made.source) : (r.addStruct made).Settled c := by
  refine h.of_sameNames (sameNames_addStruct ?_)
  rw [h.structs, if_pos hdefined, hname]

theorem addRelationship (h : r.Settled c) (made : RelationshipClass) :
    (r.addRelationship made).Settled c :=
  ⟨h.enums, h.structs, h.entities⟩

end Registry.Settled

section
variable {c : Catalog} {r : Registry} {owner : String} {declares : String → Attribute → Prop}

theorem denotes_typeOfRaw (h : r.Settled c) (raw : String) :
    (r.typeOfRaw raw).base = (TypeName.split raw).2 ∧
      c.Denotes (TypeName.split raw).2 (r.typeOfRaw raw).kind (r.typeOfRaw raw).name := by
  rw [Registry.typeOfRaw]
  generalize TypeName.split raw = parts
  obtain ⟨container, base⟩ := parts
  simp only
  cases hp : Primitive.ofRaw? base with
  | some p => exact ⟨rfl, .primitive p hp⟩
  | none =>
    simp only [Registry.typeOf?, h.enums, h.structs, h.entities]
    cases henum : c.enums.contains base with
    | true => simpa using Denotes.enumeration hp henum
    | false =>
      cases hstruct : c.structs.contains base with
      | true => simpa using Denotes.struct hp henum hstruct
      | false =>
        cases hentity : c.entities.contains base with
        | true => simpa using Denotes.entity hp henum hstruct hentity
        | false => simpa using Denotes.unknown hp henum hstruct hentity

/-- Once all classes have names, the type of an attribute is the one that the catalog gives it. -/
theorem types_typeAt (h : r.Settled c) (owner : String) (a : Attribute) :
    c.Types owner a (Property.typeAt c.config r owner a).1
      (Property.typeAt c.config r owner a).2 := by
  rw [Property.typeAt]
  cases hreplace : c.config.replacement? owner a.name with
  | some base =>
    refine .replaced hreplace rfl ?_
    simp only [h.entities]
    split <;> rfl
  | none =>
    simp only [Property.declaredType]
    cases hforce : c.config.forcedEnum? a.name with
    | some base =>
      refine .forced hreplace hforce rfl ?_
      simp only [h.enums]
      split <;> rfl
    | none =>
      obtain ⟨hbase, hdenotes⟩ := denotes_typeOfRaw h a.typeName
      exact .declared hreplace hforce hbase (hbase ▸ hdenotes)

theorem typed_ofAttribute (h : r.Settled c) {declaredBy : String} {a : Attribute}
    (ha : declares declaredBy a) (ofStrings : IndexKind) :
    (Property.ofAttribute c.config r ofStrings owner declaredBy a).1.Typed c owner declares :=
  ⟨a, ha, rfl, types_typeAt h owner a⟩

theorem typed_ofRelationship (h : r.Settled c) {declaredBy : String} {a : RelationshipAttribute}
    (ha : declares declaredBy a.toAttribute) :
    (Property.ofRelationship c.config r owner declaredBy a).1.Typed c owner declares :=
  ⟨a.toAttribute, ha, rfl, types_typeAt h owner a.toAttribute⟩

namespace PropertySet

theorem typed_empty : (∅ : PropertySet).Typed c owner declares := by
  intro p hp
  obtain ⟨name, hname⟩ := mem_toList.1 hp
  cases hname

/-- Properties that are inserted into a set keep it typed. -/
theorem Typed.insertMade {s : PropertySet} (hs : s.Typed c owner declares)
    {made : List (Property × List Finding)} (hmade : ∀ m ∈ made, m.1.Typed c owner declares) :
    (s.insertMade owner made).1.Typed c owner declares := by
  intro p hp
  rcases mem_insertMade hp with hp | hp
  · exact hs p hp
  · obtain ⟨m, hm, rfl⟩ := List.mem_map.1 hp
    exact hmade m hm

end PropertySet

/-! ### Classes -/

/-- The name of a role's class is that of the entity that plays it. -/
theorem name_ofRole (h : r.Settled c) (relationship : String) (d : Role) :
    (RoleClass.ofRole c.config r relationship d).1.name = c.config.classNameOf d.entity := by
  simp only [RoleClass.ofRole, h.entities]
  split <;> rfl

/-- The name of an entity's class is that of the entity, whatever is visible on it. -/
theorem name_ofType (h : r.Settled c) (d : EntityType) (v : Visible) :
    (EntityClass.ofType c r d v).1.name = c.config.classNameOf d.name := by
  simp only [EntityClass.ofType, h.entities]
  split <;> rfl

/-- What stands in a closure is declared by the type that it belongs to. -/
theorem declared_of_closure {α : Type} {m : Member α} {passes : String → α → Bool}
    {name key : String} {o : Owned α} (h : (c.closure m passes name).1.find? key = some o) :
    ∃ d, c.entities.find? o.owner = some d ∧ o.declaration ∈ m.declared d :=
  (of_find?_closure h).declared

/-- An attribute that stands in a closure and is not internal is one that the type shows to which it
belongs. -/
theorem shows_of_closure {name key : String} {o : Owned Attribute}
    (h : (c.attributeClosure name).1.find? key = some o)
    (hout : o.declaration.typeName ≠ c.config.internalType) :
    c.shows o.declaration.name o.declaration.typeName = true := by
  have hpass := (of_find?_closure h).passed
  rw [passesAttribute, Bool.and_eq_true] at hpass
  rw [shows, Bool.and_eq_true]
  exact ⟨decide_eq_true hout, hpass.1⟩

theorem typed_propertiesOf (h : r.Settled c) {closure : Closure Attribute}
    (hdeclared : ∀ key o, closure.find? key = some o → c.EntityDeclares o.owner o.declaration) :
    (PropertySet.insertMade owner ∅ (c.propertiesOf r owner closure)).1.Typed c owner
      c.EntityDeclares := by
  refine PropertySet.typed_empty.insertMade fun made hmade => ?_
  obtain ⟨o, ho, rfl⟩ := List.mem_map.1 hmade
  obtain ⟨key, hkey⟩ := KeyMap.mem_values_iff.1 (List.mem_filter.1 ho).1
  exact typed_ofAttribute h (hdeclared key o hkey) .keyword

theorem typed_relationshipPropertiesOf (h : r.Settled c) {closure : Closure RelationshipAttribute}
    (hdeclared : ∀ key o, closure.find? key = some o →
      c.EntityRelates o.owner o.declaration.toAttribute) :
    (PropertySet.insertMade owner ∅ (c.relationshipPropertiesOf r owner closure)).1.Typed c owner
      c.EntityRelates := by
  refine PropertySet.typed_empty.insertMade fun made hmade => ?_
  obtain ⟨o, ho, rfl⟩ := List.mem_map.1 hmade
  obtain ⟨key, hkey⟩ := KeyMap.mem_values_iff.1 ho
  exact typed_ofRelationship h (hdeclared key o hkey)

/-- What an entity adds to its parent class is among what it shows. -/
theorem find?_addedAttributes {name key : String} {o : Owned Attribute}
    (h : (c.addedAttributes name).1.find? key = some o) :
    (c.attributeClosure name).1.find? key = some o := by
  rw [addedAttributes] at h
  split at h
  · exact h
  · exact find?_of_without h

theorem find?_addedRelationships {name key : String} {o : Owned RelationshipAttribute}
    (h : (c.addedRelationships name).1.find? key = some o) :
    (c.relationshipClosure name).1.find? key = some o := by
  rw [addedRelationships] at h
  split at h
  · exact h
  · exact find?_of_without h

/-- The class of an entity has the entity's name and typed properties. -/
theorem typed_entity (h : r.Settled c) {d : EntityType}
    (hd : c.entities.find? d.name = some d) :
    let made := (EntityClass.ofType c r d (c.shownOn d.name).1).1
    made.name = c.config.classNameOf d.name ∧
      made.attributes.Typed c d.name c.EntityDeclares ∧
      made.relationships.Typed c d.name c.EntityRelates := by
  have hattributes : ∀ key o, (c.attributeClosure d.name).1.find? key = some o →
      c.EntityDeclares o.owner o.declaration := fun key o ho => declared_of_closure ho
  have hrelationships : ∀ key o, (c.relationshipClosure d.name).1.find? key = some o →
      c.EntityRelates o.owner o.declaration.toAttribute := fun key o ho => by
    obtain ⟨type, htype, ha⟩ := declared_of_closure ho
    exact ⟨type, htype, o.declaration, ha, rfl⟩
  refine ⟨name_ofType h d _, ⟨typed_propertiesOf h hattributes, typed_propertiesOf h ?_, ?_⟩,
    ⟨typed_relationshipPropertiesOf h hrelationships, typed_relationshipPropertiesOf h ?_, ?_⟩⟩
  · exact fun key o ho => hattributes key o (find?_addedAttributes ho)
  · refine PropertySet.typed_empty.insertMade fun made hmade => ?_
    obtain ⟨a, ha, rfl⟩ := List.mem_map.1 hmade
    exact typed_ofAttribute h ⟨d, hd, (List.mem_filter.1 ha).1⟩ .keyword
  · exact fun key o ho => hrelationships key o (find?_addedRelationships ho)
  · refine PropertySet.typed_empty.insertMade fun made hmade => ?_
    obtain ⟨a, ha, rfl⟩ := List.mem_map.1 hmade
    exact typed_ofRelationship h ⟨d, hd, a, (List.mem_filter.1 ha).1, rfl⟩

/-- The class of a relationship has typed properties, and its roles are named after the entities
that play them. -/
theorem typed_relationship (h : r.Settled c) {d : RelationshipType}
    (hd : c.relationships.find? d.name = some d) :
    let made := (RelationshipClass.ofType c.config r d).1
    made.first.name = c.config.classNameOf d.first.entity ∧
      made.second.name = c.config.classNameOf d.second.entity ∧
      made.properties.Typed c d.name c.RelationshipDeclares := by
  refine ⟨name_ofRole h d.name d.first, name_ofRole h d.name d.second, ?_⟩
  refine PropertySet.typed_empty.insertMade fun made hmade => ?_
  obtain ⟨a, ha, rfl⟩ := List.mem_map.1 hmade
  exact typed_ofAttribute h ⟨d, hd, ha⟩ .text

/-! ### Structs, whose classes are known already -/

/-- A registry in which all classes have names, and in which each struct class that is known is
filed under its source and has typed properties. -/
structure Registry.Ready (c : Catalog) (r : Registry) : Prop where
  settled : r.Settled c
  structs : ∀ key known, r.structs.find? key = some known →
    known.source = key ∧ known.properties.Typed c key c.StructDeclares

theorem typed_struct (h : r.Ready c) {d : StructType} (hd : c.structs.find? d.name = some d) :
    let made := (StructClass.ofType c.config r d).1
    made.source = d.name ∧ made.name = c.config.classNameOf d.name ∧
      made.properties.Typed c d.name c.StructDeclares := by
  have hname := h.settled.structs d.name
  rw [KeyMap.contains, hd, Option.isSome_some, if_pos rfl] at hname
  obtain ⟨known, hknown, hname⟩ := Option.map_eq_some_iff.1 hname
  obtain ⟨hsource, htyped⟩ := h.structs d.name known hknown
  simp only [StructClass.ofType, hknown, Option.getD_some]
  refine ⟨hsource, hname, htyped.insertMade fun made hmade => ?_⟩
  obtain ⟨a, ha, rfl⟩ := List.mem_map.1 hmade
  exact typed_ofAttribute h.settled ⟨d, hd, ha⟩ .keyword

/-- A typed struct class that takes the place of a known one keeps the registry ready. -/
theorem Registry.Ready.addStruct (h : r.Ready c) {made : StructClass}
    (hdefined : c.structs.contains made.source = true)
    (hname : made.name = c.config.classNameOf made.source)
    (htyped : made.properties.Typed c made.source c.StructDeclares) :
    (r.addStruct made).Ready c := by
  refine ⟨h.settled.addStruct hdefined hname, fun key known hknown => ?_⟩
  rw [Registry.find?_addStruct] at hknown
  split at hknown
  next he =>
    obtain rfl := Option.some.inj hknown
    exact ⟨he.symm, he ▸ htyped⟩
  next => exact h.structs key known hknown

theorem Registry.Ready.addRelationship (h : r.Ready c) (made : RelationshipClass) :
    (r.addRelationship made).Ready c :=
  ⟨h.settled.addRelationship made, h.structs⟩

end
end TypeCatalog
