import TypeCatalog.Class.Basic

/-!
The classes known so far, by the names of their sources, and what raw type names mean to them. A
name is looked up among enumerations, then structs, then entities; a name that is none of them
stands for an entity that is not known yet.
-/

namespace TypeCatalog

/-- The classes known so far. -/
structure Registry where
  enums : KeyMap String EnumClass := ∅
  structs : KeyMap String StructClass := ∅
  entities : KeyMap String EntityClass := ∅
  relationships : KeyMap String RelationshipClass := ∅
  deriving DecidableEq, Repr

namespace Registry

/-- The registry with the class of an enumeration. -/
def addEnum (r : Registry) (e : EnumClass) : Registry :=
  { r with enums := r.enums.insert e.source e }

/-- The registry with the class of a struct. -/
def addStruct (r : Registry) (s : StructClass) : Registry :=
  { r with structs := r.structs.insert s.source s }

/-- The registry with the class of an entity. -/
def addEntity (r : Registry) (e : EntityClass) : Registry :=
  { r with entities := r.entities.insert e.source e }

/-- The registry with the class of a relationship. -/
def addRelationship (r : Registry) (d : RelationshipClass) : Registry :=
  { r with relationships := r.relationships.insert d.source d }

@[simp] theorem find?_addStruct (r : Registry) (s : StructClass) (source : String) :
    (r.addStruct s).structs.find? source =
      if source = s.source then some s else r.structs.find? source :=
  KeyMap.find?_insert ..

@[simp] theorem find?_addEntity (r : Registry) (e : EntityClass) (source : String) :
    (r.addEntity e).entities.find? source =
      if source = e.source then some e else r.entities.find? source :=
  KeyMap.find?_insert ..

/-- The class name of an enumeration. -/
def enumName? (r : Registry) (source : String) : Option String :=
  (r.enums.find? source).map (·.name)

/-- The class name of a struct. -/
def structName? (r : Registry) (source : String) : Option String :=
  (r.structs.find? source).map (·.name)

/-- The class name of an entity. -/
def entityName? (r : Registry) (source : String) : Option String :=
  (r.entities.find? source).map (·.name)

/-- The class name of a relationship. -/
def relationshipName? (r : Registry) (source : String) : Option String :=
  (r.relationships.find? source).map (·.name)

/-- The type that a bare name denotes. -/
def typeOf? (r : Registry) (base : String) : Option TargetType :=
  match r.enumName? base with
  | some name => some { kind := .enumeration, name, base }
  | none =>
    match r.structName? base with
    | some name => some { kind := .struct, name, base }
    | none => (r.entityName? base).map fun name => { kind := .entity, name, base }

/-- The type that a raw type name denotes. -/
def typeOfRaw (r : Registry) (raw : String) : TargetType :=
  let (container, base) := TypeName.split raw
  match Primitive.ofRaw? base with
  | some p => { kind := .primitive, name := p.className, base, container }
  | none =>
    match r.typeOf? base with
    | some t => t.within container
    | none => { kind := .entity, name := base, base, container }

end Registry

end TypeCatalog
