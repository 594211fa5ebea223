import TypeCatalog.Declared.Types
import TypeCatalog.Class.Property

/-!
Generated classes, one sort for each kind of type definition. A class knows the definition that it
comes from (its source). One that has a name and nothing else stands for a class that is still to
be made.
-/

namespace TypeCatalog

/-- The member of a class's document that lists the keyed properties, left out if there are
none. -/
def keyedMember (names : KeySet String) : String × Option Json :=
  ("map_attributes", if names.isEmpty then none else some (.ofSet names))

/-! ### Enumerations -/

/-- A constant of an enumeration. -/
structure EnumConstant where
  /-- The value in the catalog. -/
  value : String
  name : String
  ordinal : Option Int64
  description : Option String
  deriving DecidableEq, Repr

/-- The class of an enumeration. -/
structure EnumClass where
  source : String
  name : String
  description : Option String := none
  constants : List EnumConstant := []
  deriving DecidableEq, Repr

/-- The document of a constant. -/
def EnumConstant.toJson (k : EnumConstant) : Json :=
  .present [
    ("raw", some (.string k.value)),
    ("name", some (.string k.name)),
    ("ordinal", k.ordinal.map fun n => .int n.toInt),
    ("description", k.description.map .string)]

namespace EnumClass

/-- The constant of a name. -/
def constant? (e : EnumClass) (name : String) : Option EnumConstant :=
  e.constants.find? fun k => k.name = name

/-- The document of an enumeration's class. -/
def toJson (e : EnumClass) : Json :=
  .present [
    ("original_name", some (.string e.source)),
    ("class_name", some (.string e.name)),
    ("description", e.description.map .string),
    ("values", some (.ofList EnumConstant.toJson e.constants))]

end EnumClass

/-! ### Structs -/

/-- The class of a struct. -/
structure StructClass where
  source : String
  name : String
  description : Option String := none
  properties : PropertySet := ∅
  /-- The names of the properties whose values are found by keys. -/
  keyed : KeySet String := ∅
  deriving DecidableEq, Repr

/-- The document of a struct's class. -/
def StructClass.toJson (s : StructClass) : Json :=
  .present [
    ("original_name", some (.string s.source)),
    ("class_name", some (.string s.name)),
    ("description", s.description.map .string),
    ("attributes", some s.properties.toJson),
    keyedMember s.keyed]

/-! ### Relationships -/

/-- A role in the class of a relationship. -/
structure RoleClass where
  entity : String
  /-- The name of the entity's class. -/
  name : String
  /-- The name of the property that plays the role. -/
  property : String
  cardinality : Cardinality
  isContainer : Bool
  deriving DecidableEq, Repr

/-- The class of a relationship. -/
structure RelationshipClass where
  source : String
  name : String
  description : Option String
  first : RoleClass
  second : RoleClass
  properties : PropertySet
  /-- The names of the properties whose values are found by keys. -/
  keyed : KeySet String
  deriving DecidableEq, Repr

/-- The document of a role. -/
def RoleClass.toJson (r : RoleClass) : Json :=
  .object [
    ("type_name", .string r.entity),
    ("class_name", .string r.name),
    ("attribute_name", .string r.property),
    ("cardinality", .string r.cardinality.label),
    ("is_container", .bool r.isContainer)]

/-- The document of a relationship's class. -/
def RelationshipClass.toJson (r : RelationshipClass) : Json :=
  .present [
    ("original_name", some (.string r.source)),
    ("class_name", some (.string r.name)),
    ("description", r.description.map .string),
    ("end1", some r.first.toJson),
    ("end2", some r.second.toJson),
    ("attributes", some r.properties.toJson),
    keyedMember r.keyed]

/-! ### Entities -/

/-- The properties of an entity's class in three tiers. -/
structure Tiers where
  /-- All properties that the class shows. -/
  shown : PropertySet := ∅
  /-- The properties that the class adds to those of its parent class. -/
  added : PropertySet := ∅
  /-- The properties that the entity itself declares. -/
  own : PropertySet := ∅
  deriving DecidableEq, Repr

/-- The class of an entity. -/
structure EntityClass where
  source : String
  name : String
  description : Option String := none
  /-- The class that this one extends. -/
  parent : Option String := none
  /-- The classes of the direct super-types. -/
  superClasses : List String := []
  /-- The classes of the direct sub-types. -/
  subClasses : List String := []
  isAbstract : Bool := false
  attributes : Tiers := {}
  relationships : Tiers := {}
  /-- The names of the attributes whose values are found by keys. -/
  keyed : KeySet String := ∅
  deriving DecidableEq, Repr

/-- The members of a class's document that hold tiers of one sort. -/
def Tiers.members (t : Tiers) (sort : String) : List (String × Option Json) :=
  [("interface_" ++ sort, some t.shown.toJson),
   ("class_" ++ sort, some t.added.toJson),
   ("own_" ++ sort, some t.own.toJson)]

/-- The document of an entity's class. -/
def EntityClass.toJson (e : EntityClass) : Json :=
  .present ([
    ("original_name", some (.string e.source)),
    ("class_name", some (.string e.name)),
    ("description", e.description.map .string),
    ("parent_class_name", e.parent.map .string),
    ("super_classes", some (.ofList .string e.superClasses)),
    ("sub_classes", some (.ofList .string e.subClasses)),
    ("is_abstract", some (.bool e.isAbstract))]
    ++ e.attributes.members "attributes" ++ e.relationships.members "relationships"
    ++ [keyedMember e.keyed])

end TypeCatalog
