import TypeCatalog.Config
import TypeCatalog.Class.Registry

/-!
The classes of definitions that inherit nothing: enumerations, structs and relationships, and
single properties. Each function takes the settings and, where other classes matter, those known
so far, and gives what it makes together with what it found in making it.
-/

namespace TypeCatalog

/-! ### Enumerations -/

/-- Elements are listed by ordinal, those without one last; equal ones keep their order. -/
def EnumElement.precedes (a b : EnumElement) : Bool :=
  match a.ordinal, b.ordinal with
  | some m, some n => m ≤ n
  | none, some _ => false
  | _, none => true

/-- The constant that an element gives. -/
def EnumConstant.ofElement (c : Config) (e : EnumElement) : EnumConstant :=
  { value := e.value, name := c.constantNameOf e.value, ordinal := e.ordinal,
    description := e.description }

namespace EnumClass

/-- The finding that the name of an element's constant is taken. -/
def repeatedConstant (owner : String) (k : EnumConstant) : Finding :=
  ⟨.conflict, owner, k.name, "value " ++ k.value ++ " resolves to an existing constant"⟩

/-- Keeps the first constant of each name that is not taken; each further one is a finding. -/
def keepFirst (owner : String) (taken : KeySet String) :
    List EnumConstant → List EnumConstant × List Finding
  | [] => ([], [])
  | k :: rest =>
    if taken.contains k.name then
      let (kept, findings) := keepFirst owner taken rest
      (kept, repeatedConstant owner k :: findings)
    else
      let (kept, findings) := keepFirst owner (KeySet.add taken k.name) rest
      (k :: kept, findings)

/-- The class of an enumeration. -/
def ofType (c : Config) (d : EnumType) : EnumClass × List Finding :=
  let elements := d.elements.mergeSort EnumElement.precedes
  let (constants, findings) := keepFirst d.name ∅ (elements.map (EnumConstant.ofElement c))
  ({ source := d.name, name := c.classNameOf d.name, description := d.description, constants },
    findings)

end EnumClass

/-! ### Properties -/

namespace Property

/-- The declared type of an attribute, or the enumeration that it is forced to, whose class need
not be known. -/
def declaredType (c : Config) (r : Registry) (a : Attribute) : TargetType :=
  let declared := r.typeOfRaw a.typeName
  match c.forcedEnum? a.name with
  | some base =>
    { kind := .enumeration, name := (r.enumName? base).getD (c.classNameOf base), base,
      container := declared.container }
  | none => declared

/-- The type of an attribute at an owning type, and whether a replacement gave it. A replacement
is an entity, known or not, in the container of the type that it replaces. -/
def typeAt (c : Config) (r : Registry) (owner : String) (a : Attribute) : TargetType × Bool :=
  let declared := declaredType c r a
  match c.replacement? owner a.name with
  | some base =>
    ({ kind := .entity, name := (r.entityName? base).getD base, base,
       container := declared.container }, true)
  | none => (declared, false)

/-- The singular form of a property's name, if it holds many values and has one. -/
def singularAt (c : Config) (t : TargetType) (name : String) : Option String :=
  if t.holdsMany then
    let form := c.singularOf name
    if form.isEmpty then none else some form
  else none

/-- The property of an attribute that one type declares and another type, or the same, owns. -/
def ofAttribute (c : Config) (r : Registry) (ofStrings : IndexKind) (owner declaredBy : String)
    (a : Attribute) : Property × List Finding :=
  let (type, replaced) := typeAt c r owner a
  let (searchability, findings) := Searchability.ofAttribute owner ofStrings a type
  let name := c.propertyNameOf a.name
  ({ source := a.name
     name
     declaredBy
     description := a.description
     type
     replaced
     searchability
     inherited := declaredBy ≠ owner
     isRelationship := false
     relationship := none
     relationshipClass := none
     singular := singularAt c type name }, findings)

/-- The property of a relationship attribute that one type declares and another type, or the same,
owns. -/
def ofRelationship (c : Config) (r : Registry) (owner declaredBy : String)
    (a : RelationshipAttribute) : Property × List Finding :=
  let (type, replaced) := typeAt c r owner a.toAttribute
  let (searchability, findings) :=
    Searchability.ofRelationship owner a.name a.relationship (c.searchableVia? a.name)
  let name := c.propertyNameOf a.name
  ({ source := a.name
     name
     declaredBy
     description := a.description
     type
     replaced
     searchability
     inherited := declaredBy ≠ owner
     isRelationship := true
     relationship := some a.relationship
     relationshipClass := r.relationshipName? a.relationship
     singular := singularAt c type name }, findings)

end Property

/-! ### Structs -/

namespace StructClass

/-- The class of a struct that has a name and nothing else. -/
def named (c : Config) (source : String) : StructClass :=
  { source, name := c.classNameOf source }

/-- The class of a struct. What is known of it already stays. -/
def ofType (c : Config) (r : Registry) (d : StructType) : StructClass × List Finding :=
  let known := (r.structs.find? d.name).getD (named c d.name)
  let made := d.attributes.map (Property.ofAttribute c r .keyword d.name d.name)
  let (properties, findings) := known.properties.insertMade d.name made
  let keyed := (keyedNames (made.map (·.1))).foldl KeySet.add known.keyed
  ({ known with description := d.description, properties, keyed }, findings)

end StructClass

/-! ### Relationships -/

namespace RoleClass

/-- The finding that the entity in a role is not known. -/
def unknownEntity (relationship : String) (d : Role) : Finding :=
  ⟨.danglingReference, relationship, d.entity, "end type of " ++ d.name ++ " not registered"⟩

/-- A role in the class of a relationship. -/
def ofRole (c : Config) (r : Registry) (relationship : String) (d : Role) :
    RoleClass × List Finding :=
  let known := r.entityName? d.entity
  ({ entity := d.entity
     name := known.getD (c.classNameOf d.entity)
     property := c.propertyNameOf d.name
     cardinality := d.cardinality
     isContainer := d.isContainer },
   if known.isSome then [] else [unknownEntity relationship d])

end RoleClass

/-- The class of a relationship. Its plain string attributes are full text. -/
def RelationshipClass.ofType (c : Config) (r : Registry) (d : RelationshipType) :
    RelationshipClass × List Finding :=
  let (first, ofFirst) := RoleClass.ofRole c r d.name d.first
  let (second, ofSecond) := RoleClass.ofRole c r d.name d.second
  let made := d.attributes.map (Property.ofAttribute c r .text d.name d.name)
  let (properties, ofProperties) := PropertySet.insertMade d.name ∅ made
  ({ source := d.name
     name := c.classNameOf d.name
     description := d.description
     first
     second
     properties
     keyed := KeySet.ofKeys (keyedNames (made.map (·.1))) },
   ofFirst ++ ofSecond ++ ofProperties)

end TypeCatalog
