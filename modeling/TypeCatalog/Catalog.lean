import TypeCatalog.Config
import TypeCatalog.Declared.Snapshot
import TypeCatalog.Finding

/-!
An indexed catalog: the settings of a run and the definitions of a snapshot by name. Of several
definitions of one kind under one name the first counts, and each further one is reported.
-/

namespace TypeCatalog

/-- The settings of a run and the definitions by name. -/
structure Catalog where
  config : Config
  enums : KeyMap String EnumType
  structs : KeyMap String StructType
  entities : KeyMap String EntityType
  relationships : KeyMap String RelationshipType
  deriving DecidableEq, Repr

namespace Catalog

/-- Definitions by name, the first of each name. Further ones are findings. -/
def indexByName {α : Type} (name : α → String) (kind : String) :
    List α → KeyMap String α → KeyMap String α × List Finding
  | [], index => (index, [])
  | d :: rest, index =>
    if index.contains (name d) then
      let (answer, findings) := indexByName name kind rest index
      (answer, ⟨.conflict, name d, name d,
        "duplicate " ++ kind ++ " definition, keeping the first"⟩ :: findings)
    else indexByName name kind rest (index.insert (name d) d)

/-- The root entity, with the configured description if it has none that shows anything. -/
def describeRoot (c : Config) (root : EntityType) : EntityType :=
  if root.description.all fun text => Text.allBlank text.toList then
    { root with description := some c.rootDescription }
  else root

/-- The entities, the root among them described. -/
def withRootDescription (c : Config) (entities : KeyMap String EntityType) :
    KeyMap String EntityType :=
  match entities.find? c.rootType with
  | some root => entities.insert c.rootType (describeRoot c root)
  | none => entities

/-- The indexed catalog of a snapshot, with what was found in building it. -/
def ofSnapshot (c : Config) (s : Snapshot) : Catalog × List Finding :=
  let (enums, ofEnums) := indexByName (·.name) "enum" s.enums ∅
  let (structs, ofStructs) := indexByName (·.name) "struct" s.structs ∅
  let (entities, ofEntities) := indexByName (·.name) "entity" s.entities ∅
  let (relationships, ofRelationships) :=
    indexByName (·.name) "relationship" s.relationships ∅
  ({ config := c, enums, structs, entities := withRootDescription c entities, relationships },
    ofEnums ++ ofStructs ++ ofEntities ++ ofRelationships)

/-- The direct super-types of a name, none if it has no definition. -/
def superTypes (c : Catalog) (name : String) : List String :=
  (c.entities.find? name).elim [] (·.superTypes)

/-- Whether an entity is generated. -/
def generates (c : Catalog) (name : String) : Bool :=
  (c.entities.find? name).any fun d => c.config.includes d.toTypeHeader

end Catalog

end TypeCatalog
