import TypeCatalog.Declared.Attribute

/-!
The four kinds of type definition in a catalog: enumerations, structs, relationships and
entities. Entities are the nodes of the inheritance graph; each lists its direct super-types and
sub-types by name.
-/

namespace TypeCatalog

/-- What definitions of every kind have. -/
structure TypeHeader where
  name : String
  displayName : Option String := none
  description : Option String := none
  serviceType : Option String := none
  deriving DecidableEq, Repr

namespace TypeHeader

/-- The names of the fields in a document, in order. -/
def fieldNames : List String := ["name", "displayName", "description", "serviceType"]

/-- The members of a header in its definition's document. -/
def members (h : TypeHeader) : List (String × Option Json) :=
  [("name", some (.string h.name)),
   ("displayName", h.displayName.map .string),
   ("description", h.description.map .string),
   ("serviceType", h.serviceType.map .string)]

/-- The header in a record. -/
def ofRecord? (r : Json.Record) : Option TypeHeader := do
  return {
    name := ← r.required "name" Json.string?
    displayName := ← r.optional "displayName" Json.string?
    description := ← r.optional "description" Json.string?
    serviceType := ← r.optional "serviceType" Json.string? }

end TypeHeader

/-! ### Enumerations -/

/-- An element of an enumeration. -/
structure EnumElement where
  value : String
  ordinal : Option Int64 := none
  description : Option String := none
  deriving DecidableEq, Repr

/-- A declared enumeration. -/
structure EnumType extends TypeHeader where
  elements : List EnumElement := []
  deriving DecidableEq, Repr

namespace EnumElement

/-- The document of an element. -/
def toJson (e : EnumElement) : Json :=
  .present [
    ("value", some (.string e.value)),
    ("ordinal", e.ordinal.map fun n => .int n.toInt),
    ("description", e.description.map .string)]

/-- The element that a document is. -/
def ofJson? (j : Json) : Option EnumElement := do
  let r ← j.record? ["value", "ordinal", "description"]
  return {
    value := ← r.required "value" Json.string?
    ordinal := ← r.optional "ordinal" Json.int64?
    description := ← r.optional "description" Json.string? }

end EnumElement

namespace EnumType

/-- The enumeration with a further element, whose ordinal is its position. -/
def addElement (d : EnumType) (value : String) : EnumType :=
  { d with
    elements := d.elements
      ++ [{ value, ordinal := some (Int64.ofNat d.elements.length) }] }

/-- The enumeration in a service namespace. -/
def inService (d : EnumType) (serviceType : String) : EnumType :=
  { d with serviceType := some serviceType }

/-- The document of an enumeration. -/
def toJson (d : EnumType) : Json :=
  .present (d.members ++ [("elementDefs", some (.ofList EnumElement.toJson d.elements))])

/-- The enumeration that a document is. -/
def ofJson? (j : Json) : Option EnumType := do
  let r ← j.record? (TypeHeader.fieldNames ++ ["elementDefs"])
  return {
    toTypeHeader := ← TypeHeader.ofRecord? r
    elements := ← r.withDefault "elementDefs" [] (Json.list? EnumElement.ofJson?) }

end EnumType

/-! ### Structs -/

/-- A declared struct. -/
structure StructType extends TypeHeader where
  attributes : List Attribute := []
  deriving DecidableEq, Repr

namespace StructType

/-- The struct with a further attribute. -/
def addAttribute (d : StructType) (a : Attribute) : StructType :=
  { d with attributes := d.attributes ++ [a] }

/-- The struct in a service namespace. -/
def inService (d : StructType) (serviceType : String) : StructType :=
  { d with serviceType := some serviceType }

/-- The document of a struct. -/
def toJson (d : StructType) : Json :=
  .present (d.members ++ [("attributeDefs", some (.ofList Attribute.toJson d.attributes))])

/-- The struct that a document is. -/
def ofJson? (j : Json) : Option StructType := do
  let r ← j.record? (TypeHeader.fieldNames ++ ["attributeDefs"])
  return {
    toTypeHeader := ← TypeHeader.ofRecord? r
    attributes := ← r.withDefault "attributeDefs" [] (Json.list? Attribute.ofJson?) }

end StructType

/-! ### Relationships -/

/-- How many entities stand at one end of a relationship. -/
inductive Cardinality | single | set | list
  deriving DecidableEq, Repr

/-- One end of a relationship: an entity type and the attribute that plays the role there. -/
structure Role where
  entity : String
  name : String
  cardinality : Cardinality := .single
  isContainer : Bool := false
  deriving DecidableEq, Repr

/-- A declared relationship between two entity types. -/
structure RelationshipType extends TypeHeader where
  first : Role
  second : Role
  attributes : List Attribute := []
  deriving DecidableEq, Repr

namespace Cardinality

/-- The name of a cardinality. -/
def label : Cardinality → String
  | .single => "SINGLE"
  | .set => "SET"
  | .list => "LIST"

/-- The cardinality with a given name. -/
def ofLabel? (label : String) : Option Cardinality :=
  if label = "SINGLE" then some .single
  else if label = "SET" then some .set
  else if label = "LIST" then some .list
  else none

/-- The cardinality that a document is: its name, or an object of its name and null. -/
def ofJson? : Json → Option Cardinality
  | .string label => ofLabel? label
  | .object [(label, .null)] => ofLabel? label
  | _ => none

end Cardinality

namespace Role

/-- A role that at most one entity plays. -/
def one (entity name : String) : Role := { entity, name }

/-- A role that a set of entities plays. -/
def many (entity name : String) : Role := { entity, name, cardinality := .set }

/-- The role, marked as the one that contains the other. -/
def containing (r : Role) : Role := { r with isContainer := true }

/-- The document of a role. -/
def toJson (r : Role) : Json :=
  .object [
    ("type", .string r.entity),
    ("name", .string r.name),
    ("cardinality", .string r.cardinality.label),
    ("isContainer", .bool r.isContainer)]

/-- The role that a document is. -/
def ofJson? (j : Json) : Option Role := do
  let r ← j.record? ["type", "name", "cardinality", "isContainer"]
  return {
    entity := ← r.required "type" Json.string?
    name := ← r.required "name" Json.string?
    cardinality := ← r.withDefault "cardinality" .single Cardinality.ofJson?
    isContainer := ← r.withDefault "isContainer" false Json.bool? }

end Role

namespace RelationshipType

/-- The relationship with a further attribute. -/
def addAttribute (d : RelationshipType) (a : Attribute) : RelationshipType :=
  { d with attributes := d.attributes ++ [a] }

/-- The relationship in a service namespace. -/
def inService (d : RelationshipType) (serviceType : String) : RelationshipType :=
  { d with serviceType := some serviceType }

/-- Whether an entity plays one of the two roles. -/
def joins (d : RelationshipType) (entity : String) : Bool :=
  d.first.entity = entity || d.second.entity = entity

/-- The document of a relationship. -/
def toJson (d : RelationshipType) : Json :=
  .present (d.members ++ [
    ("endDef1", some d.first.toJson),
    ("endDef2", some d.second.toJson),
    ("attributeDefs", some (.ofList Attribute.toJson d.attributes))])

/-- The relationship that a document is. -/
def ofJson? (j : Json) : Option RelationshipType := do
  let r ← j.record? (TypeHeader.fieldNames ++ ["endDef1", "endDef2", "attributeDefs"])
  return {
    toTypeHeader := ← TypeHeader.ofRecord? r
    first := ← r.required "endDef1" Role.ofJson?
    second := ← r.required "endDef2" Role.ofJson?
    attributes := ← r.withDefault "attributeDefs" [] (Json.list? Attribute.ofJson?) }

end RelationshipType

/-! ### Entities -/

/-- A declared entity. -/
structure EntityType extends TypeHeader where
  attributes : List Attribute := []
  relationshipAttributes : List RelationshipAttribute := []
  superTypes : List String := []
  subTypes : List String := []
  deriving DecidableEq, Repr

namespace EntityType

/-- The entity with a further attribute. -/
def addAttribute (d : EntityType) (a : Attribute) : EntityType :=
  { d with attributes := d.attributes ++ [a] }

/-- The entity with a further relationship attribute. -/
def addRelationship (d : EntityType) (a : RelationshipAttribute) : EntityType :=
  { d with relationshipAttributes := d.relationshipAttributes ++ [a] }

/-- The entity with a further direct super-type. -/
def addSuperType (d : EntityType) (name : String) : EntityType :=
  { d with superTypes := d.superTypes ++ [name] }

/-- The entity with a further direct sub-type. -/
def addSubType (d : EntityType) (name : String) : EntityType :=
  { d with subTypes := d.subTypes ++ [name] }

/-- The entity with a description. -/
def describe (d : EntityType) (description : String) : EntityType :=
  { d with description := some description }

/-- The entity in a service namespace. -/
def inService (d : EntityType) (serviceType : String) : EntityType :=
  { d with serviceType := some serviceType }

/-- The document of an entity. -/
def toJson (d : EntityType) : Json :=
  .present (d.members ++ [
    ("attributeDefs", some (.ofList Attribute.toJson d.attributes)),
    ("relationshipAttributeDefs",
      some (.ofList RelationshipAttribute.toJson d.relationshipAttributes)),
    ("superTypes", some (.ofList .string d.superTypes)),
    ("subTypes", some (.ofList .string d.subTypes))])

/-- The entity that a document is, with `outer` levels of a greater document around it. -/
def ofJson? (outer : Nat) (j : Json) : Option EntityType := do
  let r ← j.record? (TypeHeader.fieldNames
    ++ ["attributeDefs", "relationshipAttributeDefs", "superTypes", "subTypes"])
  return {
    toTypeHeader := ← TypeHeader.ofRecord? r
    attributes := ← r.withDefault "attributeDefs" [] (Json.list? Attribute.ofJson?)
    relationshipAttributes := ← r.withDefault "relationshipAttributeDefs" []
      (Json.list? (RelationshipAttribute.ofJson? (outer + 2)))
    superTypes := ← r.withDefault "superTypes" [] (Json.list? Json.string?)
    subTypes := ← r.withDefault "subTypes" [] (Json.list? Json.string?) }

end EntityType

end TypeCatalog
