import TypeCatalog.Json.Record

/-!
Attributes as a catalog declares them: a name, a raw type name, and how the search index holds
the attribute. A relationship attribute also names the relationship that it belongs to.
-/

namespace TypeCatalog

/-- How the field of an attribute itself is indexed. -/
structure Indexing where
  analyzer : Option String := none
  deriving DecidableEq, Repr

/-- A further indexed field of an attribute. -/
structure Subfield where
  kind : String
  analyzer : Option String := none
  deriving DecidableEq, Repr

/-- A declared attribute. Subfields are listed under their suffixes. -/
structure Attribute where
  name : String
  typeName : String
  description : Option String := none
  indexing : Option Indexing := none
  subfields : KeyMap String Subfield := ∅
  deriving DecidableEq, Repr

/-- A declared relationship attribute. -/
structure RelationshipAttribute extends Attribute where
  relationship : String
  deriving DecidableEq, Repr

namespace Indexing

/-- The document of an indexing. -/
def toJson (i : Indexing) : Json := .present [("analyzer", i.analyzer.map .string)]

/-- The indexing that a document is. -/
def ofJson? (j : Json) : Option Indexing := do
  let r ← j.record? ["analyzer"]
  return { analyzer := ← r.optional "analyzer" Json.string? }

end Indexing

namespace Subfield

/-- A field for exact matches. -/
def exact : Subfield := { kind := "keyword" }

/-- A field for full text with an analyzer. -/
def fullText (analyzer : String) : Subfield := { kind := "text", analyzer := some analyzer }

/-- A field that only scores. -/
def scoring : Subfield := { kind := "rank_feature" }

/-- The document of a subfield. -/
def toJson (f : Subfield) : Json :=
  .present [("type", some (.string f.kind)), ("analyzer", f.analyzer.map .string)]

/-- The subfield that a document is. -/
def ofJson? (j : Json) : Option Subfield := do
  let r ← j.record? ["type", "analyzer"]
  return {
    kind := ← r.required "type" Json.string?
    analyzer := ← r.optional "analyzer" Json.string? }

end Subfield

namespace Attribute

/-- The attribute with a description. -/
def describe (a : Attribute) (description : String) : Attribute :=
  { a with description := some description }

/-- The attribute with an analyzer for its own field. -/
def analyzeWith (a : Attribute) (analyzer : String) : Attribute :=
  { a with indexing := some { analyzer := some analyzer } }

/-- The attribute with a subfield under a suffix. -/
def addSubfield (a : Attribute) (suffix : String) (field : Subfield) : Attribute :=
  { a with subfields := a.subfields.insert suffix field }

/-- The analyzer of the attribute's own field. -/
def analyzer? (a : Attribute) : Option String := a.indexing.bind (·.analyzer)

/-- The names of the fields in a document, in order. -/
def fieldNames : List String :=
  ["name", "typeName", "description", "indexTypeESConfig", "indexTypeESFields"]

/-- The members of an attribute's document. -/
def members (a : Attribute) : List (String × Option Json) :=
  [("name", some (.string a.name)),
   ("typeName", some (.string a.typeName)),
   ("description", a.description.map .string),
   ("indexTypeESConfig", a.indexing.map Indexing.toJson),
   ("indexTypeESFields",
    if a.subfields.isEmpty then none else some (.ofMap Subfield.toJson a.subfields))]

/-- The document of an attribute. -/
def toJson (a : Attribute) : Json := .present a.members

/-- The attribute that a document is. -/
def ofJson? (j : Json) : Option Attribute := do
  let r ← j.record? fieldNames
  return {
    name := ← r.required "name" Json.string?
    typeName := ← r.required "typeName" Json.string?
    description := ← r.optional "description" Json.string?
    indexing := ← r.optional "indexTypeESConfig" Indexing.ofJson?
    subfields := ← r.withDefault "indexTypeESFields" ∅ (Json.map? Subfield.ofJson?) }

end Attribute

namespace RelationshipAttribute

/-- The document of a relationship attribute: the attribute's members, then the relationship. -/
def toJson (a : RelationshipAttribute) : Json :=
  .present (a.members ++ [("relationshipTypeName", some (.string a.relationship))])

/-- The relationship attribute that a document is, with `outer` levels of a greater document
around it: always an object, all of whose members are held until the attribute among them has been
told apart. -/
def ofJson? (outer : Nat) : Json → Option RelationshipAttribute
  | .object ms =>
    if ms.all fun m => m.2.isHoldable (Json.maxDepth - outer - 1) then do
      let r ← (Json.object ms).record? ["relationshipTypeName"]
      return {
        toAttribute := ← Attribute.ofJson? (.object ms)
        relationship := ← r.required "relationshipTypeName" Json.string? }
    else none
  | _ => none

end RelationshipAttribute

end TypeCatalog
