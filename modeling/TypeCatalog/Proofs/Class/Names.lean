import TypeCatalog.Class.Entity

/-!
Classes refer to each other by name. Whatever is known of other classes besides their names does not
show in a class, so that registries with the same names (`Registry.SameNames`) give the same
classes, though a struct is made of what is known of itself. Main statements: `struct_congr`,
`relationship_congr` and `entity_congr`, and `SameNames.foldl_addEntity` for classes that are filed.
-/

namespace TypeCatalog
open Catalog

/-- Two registries know the same enumerations, structs and entities, and by the same names. -/
structure Registry.SameNames (r r' : Registry) : Prop where
  enums : r'.enumName? = r.enumName?
  structs : r'.structName? = r.structName?
  entities : r'.entityName? = r.entityName?

variable {c : Catalog} {config : Config} {r r' : Registry}

namespace Registry

/-- A struct class in the place of one with the same name changes no name. -/
theorem sameNames_addStruct {made : StructClass} (h : r.structName? made.source = some made.name) :
    r.SameNames (r.addStruct made) := by
  refine ⟨rfl, funext fun source => ?_, rfl⟩
  rw [structName?, find?_addStruct]
  split
  next he => rw [he, h, Option.map_some]
  next => rfl

/-- Nor does an entity class. -/
theorem sameNames_addEntity {made : EntityClass} (h : r.entityName? made.source = some made.name) :
    r.SameNames (r.addEntity made) := by
  refine ⟨rfl, rfl, funext fun source => ?_⟩
  rw [entityName?, find?_addEntity]
  split
  next he => rw [he, h, Option.map_some]
  next => rfl

end Registry

/-! ### Filing classes

Registries that know the same names still do so when the same classes are filed in both. -/

/-- The source and the name of an entity's class. -/
def EntityClass.label (e : EntityClass) : String × String := (e.source, e.name)

namespace Registry.SameNames

theorem addEnum (h : r.SameNames r') (made : EnumClass) :
    (r.addEnum made).SameNames (r'.addEnum made) where
  enums := funext fun source => by
    have := congrFun h.enums source
    simp only [enumName?, Registry.addEnum, KeyMap.find?_insert] at this ⊢
    split
    · rfl
    · exact this
  structs := h.structs
  entities := h.entities

theorem addStruct (h : r.SameNames r') (made : StructClass) :
    (r.addStruct made).SameNames (r'.addStruct made) where
  enums := h.enums
  structs := funext fun source => by
    have := congrFun h.structs source
    simp only [structName?, find?_addStruct] at this ⊢
    split
    · rfl
    · exact this
  entities := h.entities

/-- The classes of an entity need not be the same, only their labels. -/
theorem addEntity (h : r.SameNames r') {made made' : EntityClass}
    (hlabel : made'.label = made.label) : (r.addEntity made).SameNames (r'.addEntity made') where
  enums := h.enums
  structs := h.structs
  entities := funext fun source => by
    obtain ⟨hsource, hname⟩ := Prod.mk.inj hlabel
    have := congrFun h.entities source
    simp only [entityName?, find?_addEntity, hsource] at this ⊢
    split
    · exact congrArg some hname
    · exact this

theorem foldl_addStruct (h : r.SameNames r') (l : List StructClass) :
    (l.foldl Registry.addStruct r).SameNames (l.foldl Registry.addStruct r') := by
  induction l generalizing r r' with
  | nil => exact h
  | cons made l ih => exact ih (h.addStruct made)

theorem foldl_addEntity {l l' : List EntityClass}
    (hl : l'.map EntityClass.label = l.map EntityClass.label) (h : r.SameNames r') :
    (l.foldl Registry.addEntity r).SameNames (l'.foldl Registry.addEntity r') := by
  induction l generalizing l' r r' with
  | nil =>
    obtain rfl := List.map_eq_nil_iff.1 hl
    exact h
  | cons made l ih =>
    obtain ⟨made', rest, rfl, hmade, hrest⟩ := List.map_eq_cons_iff.1 hl
    have hfiled := ih hrest (h.addEntity hmade)
    exact hfiled

end Registry.SameNames

/-! ### Properties -/

theorem typeAt_congr (h : r.SameNames r') (owner : String) (a : Attribute) :
    Property.typeAt config r' owner a = Property.typeAt config r owner a := by
  simp only [Property.typeAt, Property.declaredType, Registry.typeOfRaw, Registry.typeOf?, h.enums,
    h.structs, h.entities]

theorem ofAttribute_congr (h : r.SameNames r') (ofStrings : IndexKind) (owner declaredBy : String) :
    Property.ofAttribute config r' ofStrings owner declaredBy =
      Property.ofAttribute config r ofStrings owner declaredBy := by
  funext a
  simp only [Property.ofAttribute, typeAt_congr h]

/-- The property of a relationship attribute also names the relationship's class. -/
theorem ofRelationship_congr (h : r.SameNames r')
    (hrelationships : r'.relationshipName? = r.relationshipName?) (owner declaredBy : String) :
    Property.ofRelationship config r' owner declaredBy =
      Property.ofRelationship config r owner declaredBy := by
  funext a
  simp only [Property.ofRelationship, typeAt_congr h, hrelationships]

/-! ### Structs and relationships -/

/-- The class of a struct is the same if the same is known of it. -/
theorem struct_congr (h : r.SameNames r') {d : StructType}
    (hknown : r'.structs.find? d.name = r.structs.find? d.name) :
    StructClass.ofType config r' d = StructClass.ofType config r d := by
  simp only [StructClass.ofType, ofAttribute_congr h, hknown]

theorem ofRole_congr (h : r.SameNames r') (relationship : String) (d : Role) :
    RoleClass.ofRole config r' relationship d = RoleClass.ofRole config r relationship d := by
  simp only [RoleClass.ofRole, h.entities]

theorem relationship_congr (h : r.SameNames r') (d : RelationshipType) :
    RelationshipClass.ofType config r' d = RelationshipClass.ofType config r d := by
  simp only [RelationshipClass.ofType, ofRole_congr h, ofAttribute_congr h]

/-! ### Entities -/

theorem superClassesOf_congr (h : r.SameNames r') (owner : String) (superTypes : List String) :
    r'.superClassesOf owner superTypes = r.superClassesOf owner superTypes := by
  induction superTypes with
  | nil => rfl
  | cons superType rest ih => rw [Registry.superClassesOf, Registry.superClassesOf, ih, h.entities]

theorem subClassesOf_congr (h : r.SameNames r') (owner : String) (subTypes : List String) :
    c.subClassesOf r' owner subTypes = c.subClassesOf r owner subTypes := by
  induction subTypes with
  | nil => rfl
  | cons subType rest ih => rw [subClassesOf, subClassesOf, ih, h.entities]

/-- The class of an entity is the same if the classes of relationships have the same names too. -/
theorem entity_congr (h : r.SameNames r')
    (hrelationships : r'.relationshipName? = r.relationshipName?) (d : EntityType) (v : Visible) :
    EntityClass.ofType c r' d v = EntityClass.ofType c r d v := by
  have hparent : c.parentClassOf r' d.name = c.parentClassOf r d.name := by
    rw [parentClassOf, parentClassOf, h.entities]
  simp only [EntityClass.ofType, superClassesOf_congr h, subClassesOf_congr h, hparent, h.entities,
    propertiesOf, ownProperties, relationshipPropertiesOf, ownRelationshipProperties,
    ofAttribute_congr h, ofRelationship_congr h hrelationships]

end TypeCatalog
