import TypeCatalog.Searchability

/-!
Properties: attributes as generated classes show them. A `PropertySet` is keyed by the names of
its properties, and the first property of a name stays: inserting another one changes nothing and
is found to be a conflict.
-/

namespace TypeCatalog

/-- An attribute, or a relationship attribute, as a generated class shows it. -/
structure Property where
  /-- The name of the attribute in the catalog. -/
  source : String
  name : String
  /-- The type that declares the attribute. -/
  declaredBy : String
  description : Option String
  type : TargetType
  /-- Whether a configured type took the place of the declared one. -/
  replaced : Bool
  searchability : Searchability
  /-- Whether another type declares the attribute than the one that shows it. -/
  inherited : Bool
  /-- Whether the attribute is a relationship attribute. -/
  isRelationship : Bool
  /-- The relationship that a relationship attribute belongs to. -/
  relationship : Option String
  /-- The class of that relationship, if it is known. -/
  relationshipClass : Option String
  /-- The singular form of the name if there are many values. -/
  singular : Option String
  deriving DecidableEq, Repr

namespace Property

/-- Where a property comes from and what its base type is, on one line. -/
def provenance (p : Property) : String :=
  p.declaredBy ++ "." ++ p.source ++ ":" ++ p.type.base

/-- The document of a property. -/
def toJson (p : Property) : Json :=
  .present [
    ("original_name", some (.string p.source)),
    ("renamed_name", some (.string p.name)),
    ("owner", some (.string p.declaredBy)),
    ("description", p.description.map .string),
    ("mapped_type", some p.type.toJson),
    ("retyped", some (.bool p.replaced)),
    ("search", some p.searchability.toJson),
    ("inherited", some (.bool p.inherited)),
    ("is_relationship", some (.bool p.isRelationship)),
    ("relationship_type_name", p.relationship.map .string),
    ("relationship_class_name", p.relationshipClass.map .string),
    ("singular_name", p.singular.map .string)]

end Property

/-- Properties by name. -/
structure PropertySet where
  byName : KeyMap String Property := ∅
  deriving DecidableEq, Repr

namespace PropertySet

instance : EmptyCollection PropertySet := ⟨{}⟩

/-- The property of a name. -/
def get? (s : PropertySet) (name : String) : Option Property := s.byName.find? name

/-- Whether there is a property of a name. -/
def contains (s : PropertySet) (name : String) : Bool := s.byName.contains name

/-- The number of properties. -/
def size (s : PropertySet) : Nat := s.byName.size

/-- Whether there are no properties. -/
def isEmpty (s : PropertySet) : Bool := s.byName.isEmpty

/-- The names of the properties, ascending. -/
def names (s : PropertySet) : List String := s.byName.keys

/-- The properties, in the order of their names. -/
def toList (s : PropertySet) : List Property := s.byName.values

/-- The finding that `refused` met `kept` under its name in a set of the owner. -/
def conflict (owner : String) (kept refused : Property) : Finding :=
  ⟨.conflict, owner, refused.name,
    "kept " ++ kept.provenance ++ ", discarded " ++ refused.provenance⟩

/-- The set with a property, unless its name is taken, which is a finding about the owner. -/
def insert (s : PropertySet) (owner : String) (p : Property) : PropertySet × List Finding :=
  match s.get? p.name with
  | some kept => (s, [conflict owner kept p])
  | none => (⟨s.byName.insert p.name p⟩, [])

/-- The set after inserting properties one after another. -/
def insertAll (owner : String) : PropertySet → List Property → PropertySet × List Finding
  | s, [] => (s, [])
  | s, p :: rest =>
    let (s, first) := s.insert owner p
    let (s, others) := insertAll owner s rest
    (s, first ++ others)

/-- The set after inserting properties, each with what was found in making it. What was found in
making them comes before the conflicts. -/
def insertMade (owner : String) (s : PropertySet) (made : List (Property × List Finding)) :
    PropertySet × List Finding :=
  let (s, conflicts) := s.insertAll owner (made.map (·.1))
  (s, made.flatMap (·.2) ++ conflicts)

/-- The document of a set: an object of its properties by name. -/
def toJson (s : PropertySet) : Json := .ofMap Property.toJson s.byName

end PropertySet

/-- The names of those properties whose values are found by keys. -/
def keyedNames (properties : List Property) : List String :=
  (properties.filter fun p => p.type.isKeyed).map (·.name)

end TypeCatalog
