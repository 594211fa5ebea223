import TypeCatalog.Declared.Attribute
import TypeCatalog.Finding
import TypeCatalog.TargetType

/-!
How attributes are found in the search index. An attribute is indexed in one or more concrete
fields, each of an index kind; the set of index kinds present tells how the attribute as a whole
can be searched. `Searchability.ofAttribute` and `Searchability.ofRelationship` give the
searchability together with what they found amiss.
-/

namespace TypeCatalog

/-- How a concrete field is indexed. -/
inductive IndexKind
  | keyword | text | stemmed | numeric | boolean | rankFeature | relation | searchableRelation
  deriving DecidableEq, Repr

/-- How an attribute as a whole can be searched. -/
inductive SearchKind
  | keyword | text | keywordText | keywordTextStemmed | numeric | boolean | numericRank
  | relation | searchableRelation
  deriving DecidableEq, Repr

namespace IndexKind

/-- The position of an index kind in a listing. -/
def rank : IndexKind → Nat
  | .keyword => 0
  | .text => 1
  | .stemmed => 2
  | .numeric => 3
  | .boolean => 4
  | .rankFeature => 5
  | .relation => 6
  | .searchableRelation => 7

/-- The name of an index kind in a document. -/
def label : IndexKind → String
  | .keyword => "keyword"
  | .text => "text"
  | .stemmed => "stemmed"
  | .numeric => "numeric"
  | .boolean => "boolean"
  | .rankFeature => "rank_feature"
  | .relation => "relation"
  | .searchableRelation => "searchable_relation"

/-- The word for an index kind in a finding. -/
def word : IndexKind → String
  | .keyword => "Keyword"
  | .text => "Text"
  | .stemmed => "Stemmed"
  | .numeric => "Numeric"
  | .boolean => "Boolean"
  | .rankFeature => "RankFeature"
  | .relation => "Relation"
  | .searchableRelation => "SearchableRelation"

/-- All index kinds, by rank. -/
def all : List IndexKind :=
  [.keyword, .text, .stemmed, .numeric, .boolean, .rankFeature, .relation, .searchableRelation]

/-- The index kind with a given name. -/
def ofLabel? (label : String) : Option IndexKind := all.find? (·.label = label)

instance : Ord IndexKind := ⟨fun a b => compare a.rank b.rank⟩

theorem rank_injective {a b : IndexKind} (h : a.rank = b.rank) : a = b := by
  cases a <;> cases b <;> first | rfl | cases h

instance : Std.TransOrd IndexKind where
  eq_swap {a b} := @Std.OrientedCmp.eq_swap Nat compare _ a.rank b.rank
  isLE_trans {a b c} := @Std.TransCmp.isLE_trans Nat compare _ a.rank b.rank c.rank

instance : Std.LawfulEqOrd IndexKind where
  compare_self {a} := @Std.ReflCmp.compare_self Nat compare _ a.rank
  eq_of_compare {a b} h :=
    rank_injective (@Std.LawfulEqCmp.eq_of_compare Nat compare _ a.rank b.rank h)

end IndexKind

namespace SearchKind

/-- The name of a search kind in a document. -/
def label : SearchKind → String
  | .keyword => "keyword"
  | .text => "text"
  | .keywordText => "keyword_text"
  | .keywordTextStemmed => "keyword_text_stemmed"
  | .numeric => "numeric"
  | .boolean => "boolean"
  | .numericRank => "numeric_rank"
  | .relation => "relation"
  | .searchableRelation => "searchable_relation"

/-- The search kind of a set of index kinds, if they go together. -/
def ofIndexKinds? (kinds : KeySet IndexKind) : Option SearchKind :=
  match kinds.keys with
  | [.keyword] => some .keyword
  | [.text] => some .text
  | [.keyword, .text] => some .keywordText
  | [.keyword, .text, .stemmed] => some .keywordTextStemmed
  | [.numeric] => some .numeric
  | [.boolean] => some .boolean
  | [.numeric, .rankFeature] => some .numericRank
  | [.relation] => some .relation
  | [.searchableRelation] => some .searchableRelation
  | _ => none

end SearchKind

/-- The search kind of an attribute and its concrete field for each index kind. -/
structure Searchability where
  kind : Option SearchKind := none
  fields : KeyMap IndexKind String := ∅
  deriving DecidableEq, Repr

namespace Searchability

/-- Whether the attribute can be searched. -/
def isSearchable (s : Searchability) : Bool := s.kind.isSome

/-- The concrete field of an index kind. -/
def field? (s : Searchability) (kind : IndexKind) : Option String := s.fields.find? kind

/-- The document of a searchability. -/
def toJson (s : Searchability) : Json :=
  .present [
    ("field", s.kind.map fun k => .string k.label),
    ("indexed",
      if s.fields.isEmpty then none
      else some (.object (s.fields.entries.map fun e => (e.1.label, .string e.2))))]

/-! ### The declared fields -/

/-- The ending that marks a stemmed field. -/
def stemmedEnding : List Char := ".stemmed".toList

/-- Full text, stemmed if the name of the field says so. -/
def fullTextKind (field : String) : IndexKind :=
  if stemmedEnding.isSuffixOf field.toList then .stemmed else .text

/-- The index kind of an attribute without an analyzer; a plain string has the given one. -/
def plainKind? (ofStrings : IndexKind) (t : TargetType) : Option IndexKind :=
  match t.kind with
  | .primitive =>
    if t.base ∈ ["date", "float", "double", "int", "long"] then some .numeric
    else if t.base = "boolean" then some .boolean
    else if t.base = "string" then some ofStrings
    else none
  | .enumeration => some .keyword
  | .struct | .entity => none

/-- The index kind of a subfield. One of an unknown kind is full text if it has an analyzer, and
else it is not indexed. -/
def subfieldKind? (name : String) (field : Subfield) : Option IndexKind :=
  if field.kind = "keyword" then some .keyword
  else if field.kind = "text" then some (fullTextKind name)
  else if field.kind = "rank_feature" then some .rankFeature
  else if field.kind = "boolean" then some .boolean
  else if field.kind ∈ ["long", "integer", "float", "double", "date"] then some .numeric
  else if field.analyzer.isSome then some (fullTextKind name)
  else none

/-- The attribute's own field, if it is indexed. -/
def ownField? (ofStrings : IndexKind) (a : Attribute) (t : TargetType) :
    Option (IndexKind × String) :=
  (if a.analyzer?.isSome then some (fullTextKind a.name) else plainKind? ofStrings t).map
    (·, a.name)

/-- The subfields that are indexed, by suffix. -/
def indexedSubfields (a : Attribute) : List (IndexKind × String) :=
  a.subfields.entries.filterMap fun (suffix, field) =>
    let name := a.name ++ "." ++ suffix
    (subfieldKind? name field).map (·, name)

/-- All concrete fields of an attribute, its own one first. -/
def concreteFields (ofStrings : IndexKind) (a : Attribute) (t : TargetType) :
    List (IndexKind × String) :=
  (ownField? ofStrings a t).toList ++ indexedSubfields a

/-! ### The searchability of fields -/

/-- Collects fields by kind. A later field takes the place of an earlier one of its kind, which is
a finding about the attribute. -/
def collect (owner subject : String) :
    List (IndexKind × String) → KeyMap IndexKind String → KeyMap IndexKind String × List Finding
  | [], fields => (fields, [])
  | (kind, name) :: rest, fields =>
    let (answer, findings) := collect owner subject rest (fields.insert kind name)
    match fields.find? kind with
    | none => (answer, findings)
    | some earlier =>
      let detail :=
        kind.word ++ " on both " ++ earlier ++ " and " ++ name ++ ", keeping " ++ name
      (answer, ⟨.repeatedIndex, owner, subject, detail⟩ :: findings)

/-- A set of index kinds on one line. -/
def wordsOf (kinds : KeySet IndexKind) : String :=
  "\x7b" ++ ", ".intercalate (kinds.keys.map IndexKind.word) ++ "\x7d"

/-- The searchability of collected fields. Index kinds that do not go together are a finding. -/
def ofFields (owner subject : String) (fields : KeyMap IndexKind String) :
    Searchability × List Finding :=
  if fields.isEmpty then ({}, [])
  else
    let kinds : KeySet IndexKind := fields.mapValues fun _ => ()
    match SearchKind.ofIndexKinds? kinds with
    | some kind => ({ kind := some kind, fields }, [])
    | none => ({ kind := none, fields }, [⟨.unknownCombination, owner, subject, wordsOf kinds⟩])

/-- The searchability of an attribute of an owning type. -/
def ofAttribute (owner : String) (ofStrings : IndexKind) (a : Attribute) (t : TargetType) :
    Searchability × List Finding :=
  let (fields, repeated) := collect owner a.name (concreteFields ofStrings a t) ∅
  let (searchability, unknown) := ofFields owner a.name fields
  (searchability, repeated ++ unknown)

/-- The searchability of a relationship attribute. The relationship that is configured as
searchable counts only if it is the attribute's own. -/
def ofRelationship (owner name relationship : String) (searchableVia : Option String) :
    Searchability × List Finding :=
  let fields : KeyMap IndexKind String :=
    if searchableVia = some relationship then
      KeyMap.empty.insert .searchableRelation relationship
    else
      KeyMap.empty.insert .relation name
  ofFields owner name fields

end Searchability

end TypeCatalog
