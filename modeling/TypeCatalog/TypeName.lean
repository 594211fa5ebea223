import TypeCatalog.Text.Blank

/-!
Raw type names of a catalog. A raw name is a bare name or a bare name inside one of three
container shapes, `array<…>`, `array<map<…>>` and `map<…>`; a few bare names are primitive.
`TypeName.split` takes a raw name apart and `Container.wrap` puts it together.
-/

namespace TypeCatalog

/-- What holds the values of an attribute. -/
inductive Container
  /-- A sorted set, written `array<…>`. -/
  | sortedSet
  /-- A list of maps, written `array<map<…>>`. -/
  | listOfMap
  /-- A map, written `map<…>`. -/
  | map
  /-- A list, which holds the structs of an `array<…>`. -/
  | list
  deriving DecidableEq, Repr

/-- The primitive types. -/
inductive Primitive
  | string
  | boolean
  | int
  | long
  /-- A point in time, counted in milliseconds. -/
  | date
  | float
  | stringStringPair
  | stringLongPair
  deriving DecidableEq, Repr

namespace Container

/-- The name of a container in a document. -/
def label : Container → String
  | .sortedSet => "sorted_set"
  | .listOfMap => "list_of_map"
  | .map => "map"
  | .list => "list"

/-- Whether the container maps keys to values. -/
def isKeyed : Container → Bool
  | .map | .listOfMap => true
  | .sortedSet | .list => false

/-- The raw name of a container around an inner name. -/
def wrap : Option Container → List Char → List Char
  | none, inner => inner
  | some .sortedSet, inner | some .list, inner => "array<".toList ++ inner ++ ">".toList
  | some .listOfMap, inner => "array<map<".toList ++ inner ++ ">>".toList
  | some .map, inner => "map<".toList ++ inner ++ ">".toList

end Container

namespace Primitive

/-- The primitive of a raw name without blanks. -/
def ofSpelling? (spelling : String) : Option Primitive :=
  match spelling with
  | "string" => some .string
  | "boolean" => some .boolean
  | "int" => some .int
  | "long" => some .long
  | "date" => some .date
  | "float" => some .float
  | "string,string" => some .stringStringPair
  | "string,long" => some .stringLongPair
  | _ => none

/-- The primitive that a raw name means; blanks in it do not matter. -/
def ofRaw? (raw : String) : Option Primitive :=
  ofSpelling? (String.ofList (Text.removeBlanks raw.toList))

/-- The name of a primitive in generated classes. -/
def className : Primitive → String
  | .string => "String"
  | .boolean => "Boolean"
  | .int => "Integer"
  | .long | .date => "Long"
  | .float => "Double"
  | .stringStringPair => "String, String"
  | .stringLongPair => "String, Long"

end Primitive

namespace TypeName

/-- What stands between an opening and a closing mark. -/
def between? (opening closing cs : List Char) : Option (List Char) :=
  (opening.isPrefixOf? cs).bind closing.isSuffixOf?

/-- The container and the inner name of a trimmed raw name. -/
def splitTrimmed (cs : List Char) : Option Container × List Char :=
  match between? "array<map<".toList ">>".toList cs with
  | some inner => (some .listOfMap, inner)
  | none =>
    match between? "array<".toList ">".toList cs with
    | some inner => (some .sortedSet, inner)
    | none =>
      match between? "map<".toList ">".toList cs with
      | some inner => (some .map, inner)
      | none => (none, cs)

/-- The container and the inner name of a raw name. -/
def split (raw : String) : Option Container × String :=
  let (container, inner) := splitTrimmed (Text.trim raw.toList)
  (container, String.ofList inner)

end TypeName

end TypeCatalog
