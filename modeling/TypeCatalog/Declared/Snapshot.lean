import TypeCatalog.Declared.Types
import TypeCatalog.Json.Printer
import TypeCatalog.Json.Reader

/-!
A snapshot of a catalog: all its type definitions by kind, as one listing of the catalog gives
them. Names may repeat; which definition counts is decided when the snapshot is indexed.
-/

namespace TypeCatalog

/-- All type definitions of a catalog. -/
structure Snapshot where
  enums : List EnumType := []
  structs : List StructType := []
  entities : List EntityType := []
  relationships : List RelationshipType := []
  deriving DecidableEq, Repr

namespace Snapshot

/-- The snapshot with a further enumeration. -/
def addEnum (s : Snapshot) (d : EnumType) : Snapshot := { s with enums := s.enums ++ [d] }

/-- The snapshot with a further struct. -/
def addStruct (s : Snapshot) (d : StructType) : Snapshot :=
  { s with structs := s.structs ++ [d] }

/-- The snapshot with a further entity. -/
def addEntity (s : Snapshot) (d : EntityType) : Snapshot :=
  { s with entities := s.entities ++ [d] }

/-- The snapshot with a further relationship. -/
def addRelationship (s : Snapshot) (d : RelationshipType) : Snapshot :=
  { s with relationships := s.relationships ++ [d] }

/-- The number of definitions of all kinds. -/
def size (s : Snapshot) : Nat :=
  s.enums.length + s.structs.length + s.entities.length + s.relationships.length

/-- Whether there are no definitions. -/
def isEmpty (s : Snapshot) : Bool := s.size = 0

/-- The document of a snapshot. -/
def toJson (s : Snapshot) : Json :=
  .object [
    ("enumDefs", .ofList EnumType.toJson s.enums),
    ("structDefs", .ofList StructType.toJson s.structs),
    ("entityDefs", .ofList EntityType.toJson s.entities),
    ("relationshipDefs", .ofList RelationshipType.toJson s.relationships)]

/-- The snapshot that a document is. -/
def ofJson? (j : Json) : Option Snapshot := do
  let r ← j.record? ["enumDefs", "structDefs", "entityDefs", "relationshipDefs"]
  return {
    enums := ← r.withDefault "enumDefs" [] (Json.list? EnumType.ofJson?)
    structs := ← r.withDefault "structDefs" [] (Json.list? StructType.ofJson?)
    entities := ← r.withDefault "entityDefs" [] (Json.list? (EntityType.ofJson? 2))
    relationships := ← r.withDefault "relationshipDefs" []
      (Json.list? RelationshipType.ofJson?) }

/-- The text of a snapshot. -/
def toText (s : Snapshot) : String := s.toJson.toText

/-- The snapshot that a text is. -/
def ofText? (text : String) : Option Snapshot := (Json.ofText? text).bind ofJson?

end Snapshot

end TypeCatalog
