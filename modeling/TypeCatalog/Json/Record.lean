import TypeCatalog.Json.Basic

/-!
Reading records out of documents. A record with given fields is written as an object, whose
unknown members do not matter and whose known ones stand at most once, or as an array of the
leading fields in order. A field is required, optional (it may be missing or null) or has a
default (it may be missing, but not null).
-/

namespace TypeCatalog.Json

/-! ### Plain values -/

/-- The text of a string. -/
def string? : Json → Option String
  | .string s => some s
  | _ => none

/-- A truth value. -/
def bool? : Json → Option Bool
  | .bool b => some b
  | _ => none

/-- An integer of 64 bits, written without fraction and exponent. -/
def int64? : Json → Option Int64
  | .number (.integer n) =>
    if Int64.minValue.toInt ≤ n ∧ n ≤ Int64.maxValue.toInt then some (Int64.ofInt n) else none
  | _ => none

/-- A list of what `f` reads. -/
def list? {α : Type} (f : Json → Option α) : Json → Option (List α)
  | .array items => items.mapM f
  | _ => none

/-- A map of what `f` reads; of several members with one name the last counts. -/
def map? {ν : Type} (f : Json → Option ν) : Json → Option (KeyMap String ν)
  | .object members => (members.mapM fun m => (f m.2).map (m.1, ·)).map KeyMap.ofList
  | _ => none

/-- A set of strings, in which repetitions do not matter. -/
def set? (j : Json) : Option (KeySet String) := (j.list? string?).map KeySet.ofKeys

/-! ### Records -/

/-- The known fields of a record that are present. -/
structure Record where
  fields : List (String × Json)
  deriving Repr

/-- The record with the given field names that a document is. -/
def record? (names : List String) : Json → Option Record
  | .object members =>
    let known := members.filter fun m => names.contains m.1
    if (known.map (·.1)).Nodup then some ⟨known⟩ else none
  | .array items => if items.length ≤ names.length then some ⟨names.zip items⟩ else none
  | _ => none

namespace Record

/-- The value of a field. -/
def get? (r : Record) (name : String) : Option Json := r.fields.lookup name

/-- A field that must be there. -/
def required {α : Type} (r : Record) (name : String) (f : Json → Option α) : Option α :=
  (r.get? name).bind f

/-- A field that may be missing or null. -/
def optional {α : Type} (r : Record) (name : String) (f : Json → Option α) : Option (Option α) :=
  match r.get? name with
  | none | some .null => some none
  | some j => (f j).map some

/-- A field that may be missing, and then has a default value. -/
def withDefault {α : Type} (r : Record) (name : String) (default : α) (f : Json → Option α) :
    Option α :=
  match r.get? name with
  | none => some default
  | some j => f j

end Record

end TypeCatalog.Json
