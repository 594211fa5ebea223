import TypeCatalog.Json.Numeral
import TypeCatalog.KeyMap

/-!
JSON documents as values. Objects keep their members in the order of the text. A text may be
grammatical JSON and still denote nothing, because a string escapes half of a surrogate pair; such
a value is `illFormed`, and may be skipped but not read.
-/

namespace TypeCatalog

/-- A JSON document. -/
inductive Json
  | null
  | bool (value : Bool)
  | number (value : Numeral)
  | string (value : String)
  | array (items : List Json)
  | object (members : List (String × Json))
  /-- A string with an unpaired surrogate, or an object with such a string among its names. -/
  | illFormed
  deriving Inhabited, Repr

namespace Json

/-- The integer `n`. -/
def int (n : Int) : Json := .number (.integer n)

/-- The count `n`. -/
def nat (n : Nat) : Json := int n

/-- The object of the members that have a value. -/
def present (members : List (String × Option Json)) : Json :=
  .object (members.filterMap fun m => m.2.map (m.1, ·))

/-- The object of a map, its members in key order. -/
def ofMap {ν : Type} (f : ν → Json) (m : KeyMap String ν) : Json :=
  .object (m.entries.map fun e => (e.1, f e.2))

/-- The array of a set, its elements in order. -/
def ofSet (s : KeySet String) : Json := .array (s.keys.map .string)

/-- The array of a list. -/
def ofList {α : Type} (f : α → Json) (l : List α) : Json := .array (l.map f)

end Json

namespace Json

/-- How many levels a document that is read may nest. -/
def maxDepth : Nat := 127

mutual

/-- Whether a value can be held for later reading: it nests at most `depth` levels, its numbers
are finite and its strings denote text. -/
def isHoldable (depth : Nat) : Json → Bool
  | .null | .bool _ | .string _ => true
  | .number n => n.isFinite
  | .array items => depth ≠ 0 && areHoldable (depth - 1) items
  | .object members => depth ≠ 0 && membersHoldable (depth - 1) members
  | .illFormed => false

/-- Whether every item can be held. -/
def areHoldable (depth : Nat) : List Json → Bool
  | [] => true
  | item :: rest => item.isHoldable depth && areHoldable depth rest

/-- Whether every member's value can be held. -/
def membersHoldable (depth : Nat) : List (String × Json) → Bool
  | [] => true
  | (_, value) :: rest => value.isHoldable depth && membersHoldable depth rest

end

end Json

end TypeCatalog
