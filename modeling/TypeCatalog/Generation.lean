import TypeCatalog.Class.Entity
import TypeCatalog.Json.Printer

/-!
A run from a snapshot to all generated classes. Classes are named before they are made, so that
every reference meets the name that its class is going to have: first the enumerations are made,
then structs and entities are named, then structs, relationships and entities are made.
-/

namespace TypeCatalog

/-- All classes of a run by the names of their sources, and the findings, in order. -/
structure ClassModels where
  enums : KeyMap String EnumClass := ∅
  structs : KeyMap String StructClass := ∅
  relationships : KeyMap String RelationshipClass := ∅
  entities : KeyMap String EntityClass := ∅
  findings : List Finding := []
  deriving DecidableEq, Repr

/-- How a run is carried out. -/
structure RunOptions where
  /-- Among how many workers the entities are shared out. -/
  workers : Nat := 1
  /-- Whose turn it is when several workers are at work; no answer depends on it. -/
  schedule : List Nat := []
  deriving DecidableEq, Repr

/-- The options of a run with a number of workers; none counts as one. -/
def RunOptions.ofWorkers (workers : Nat) : RunOptions := { workers := max workers 1 }

/-- What a run has made before it makes the classes of entities: each class with its definition,
and the roster of the entities, whose classes have names. -/
structure Groundwork where
  enums : List (EnumType × EnumClass)
  structs : List (StructType × StructClass)
  relationships : List (RelationshipType × RelationshipClass)
  roster : Roster
  deriving DecidableEq, Repr

namespace Catalog

/-- Makes the classes of all enumerations. -/
def enumClasses (c : Catalog) : Step (List (EnumType × EnumClass)) :=
  c.enums.values.mapM fun d => do
    let made ← Step.yield (EnumClass.ofType c.config d)
    Step.register (·.addEnum made)
    return (d, made)

/-- Names the classes of all structs. -/
def nameStructs (c : Catalog) : Step Unit :=
  Step.register fun r =>
    (c.structs.keys.map (StructClass.named c.config)).foldl Registry.addStruct r

/-- Makes the classes of all structs, which have names already. -/
def structClasses (c : Catalog) : Step (List (StructType × StructClass)) :=
  c.structs.values.mapM fun d => do
    let made ← Step.yield (StructClass.ofType c.config (← get).registry d)
    Step.register (·.addStruct made)
    return (d, made)

/-- Makes the classes of all relationships. -/
def relationshipClasses (c : Catalog) : Step (List (RelationshipType × RelationshipClass)) :=
  c.relationships.values.mapM fun d => do
    let made ← Step.yield (RelationshipClass.ofType c.config (← get).registry d)
    Step.register (·.addRelationship made)
    return (d, made)

/-- The classes of those definitions that are generated, by name. -/
def generated {α κ : Type} (c : Catalog) (header : α → TypeHeader) (made : List (α × κ)) :
    KeyMap String κ :=
  KeyMap.ofList ((made.filter fun p => c.config.includes (header p.1)).map
    fun p => ((header p.1).name, p.2))

/-- The steps of a run before the classes of entities are made. -/
def groundwork (c : Catalog) : Step Groundwork := do
  let enums ← c.enumClasses
  c.nameStructs
  let roster ← c.nameEntities
  let structs ← c.structClasses
  let relationships ← c.relationshipClasses
  return { enums, structs, relationships, roster }

/-- What a run gives that has made these classes and logged these findings. -/
def models (c : Catalog) (made : Groundwork) (entities : List EntityClass) (log : Log) :
    ClassModels :=
  { enums := c.generated EnumType.toTypeHeader made.enums
    structs := c.generated StructType.toTypeHeader made.structs
    relationships := c.generated RelationshipType.toTypeHeader made.relationships
    entities := KeyMap.ofList (entities.map fun e => (e.source, e))
    findings := log.listing }

/-- All steps of a run. -/
def classModels (c : Catalog) (options : RunOptions) : Step ClassModels := do
  let made ← c.groundwork
  let entities ← c.entityClasses made.roster options.workers options.schedule
  return c.models made entities (← get).log

end Catalog

namespace ClassModels

/-- The classes of a snapshot under given settings. -/
def ofSnapshot (c : Config) (options : RunOptions) (s : Snapshot) : ClassModels :=
  let (catalog, findings) := Catalog.ofSnapshot c s
  ((catalog.classModels options).run (Store.ofFindings findings)).1

/-- The number of classes. -/
def size (g : ClassModels) : Nat :=
  g.enums.size + g.structs.size + g.relationships.size + g.entities.size

/-- Whether there are no classes. -/
def isEmpty (g : ClassModels) : Bool := g.size = 0

/-- The number of findings. -/
def findingCount (g : ClassModels) : Nat := g.findings.length

/-- The members of a run's document that hold the classes. -/
def classMembers (g : ClassModels) : List (String × Json) :=
  [("enums", .ofMap EnumClass.toJson g.enums),
   ("structs", .ofMap StructClass.toJson g.structs),
   ("relationships", .ofMap RelationshipClass.toJson g.relationships),
   ("assets", .ofMap EntityClass.toJson g.entities)]

/-- The document of a run: classes and findings. -/
def toJson (g : ClassModels) : Json :=
  .object (g.classMembers ++ [("diagnostics", .ofList Finding.toJson g.findings)])

/-- The text by which the classes of runs are told apart; it leaves the findings out. -/
def identityText (g : ClassModels) : String := (Json.object g.classMembers).toText

end ClassModels

end TypeCatalog
