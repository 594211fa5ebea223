import TypeCatalog.Inheritance.Lineage

/-!
What an entity shows of the declarations in its lineage. Declarations are gathered in the order of
the lineage, and of several under one name the first is kept; each other one is a finding. The
root type passes on one attribute and one relationship only, and attributes that the settings skip
are passed on by no type.
-/

namespace TypeCatalog

/-- A declaration and the type that it belongs to. -/
structure Owned (α : Type) where
  owner : String
  declaration : α
  deriving DecidableEq, Repr

/-- The declarations that an entity shows, by name. -/
abbrev Closure (α : Type) := KeyMap String (Owned α)

/-- A sort of declaration: where an entity lists them, and what they are called. -/
structure Member (α : Type) where
  declared : EntityType → List α
  name : α → String
  /-- The type name that a finding about a declaration shows. -/
  typeName : α → String

namespace Member

/-- The attributes of entities. -/
def attributes : Member Attribute where
  declared d := d.attributes
  name a := a.name
  typeName a := a.typeName

/-- The relationship attributes of entities. -/
def relationships : Member RelationshipAttribute where
  declared d := d.relationshipAttributes
  name a := a.name
  typeName a := a.relationship

end Member

/-- The document of a declaration and its owner. -/
def Owned.toJson {α : Type} (f : α → Json) (o : Owned α) : Json :=
  .object [("owner", .string o.owner), ("def", f o.declaration)]

namespace Catalog

/-- Whether a type passes an attribute on. -/
def passesAttribute (c : Catalog) (type : String) (a : Attribute) : Bool :=
  !c.config.skips a.name && (type ≠ c.config.rootType || a.name = c.config.identityAttribute)

/-- Whether a type passes a relationship on. -/
def passesRelationship (c : Catalog) (type : String) (a : RelationshipAttribute) : Bool :=
  type ≠ c.config.rootType || a.name = c.config.rootRelationship

variable {α : Type}

/-- The declarations of a type that it passes on, in declared order. -/
def passedOn (c : Catalog) (m : Member α) (passes : String → α → Bool) (type : String) :
    List (Owned α) :=
  match c.entities.find? type with
  | some d => ((m.declared d).filter (passes type)).map (⟨type, ·⟩)
  | none => []

/-- The finding that one declaration was kept and another one discarded. -/
def declarationConflict (m : Member α) (target : String) (kept discarded : Owned α) :
    Finding :=
  let named (o : Owned α) := o.owner ++ ":" ++ m.typeName o.declaration
  ⟨.conflict, target, m.name discarded.declaration,
    "kept " ++ named kept ++ ", discarded " ++ named discarded⟩

/-- The finding that a name in a lineage has no definition. -/
def undefinedAncestor (target name : String) : Finding :=
  ⟨.undefinedType, target, name, "super-type has no entity definition"⟩

/-- Gathers declarations by name, keeping the first of each name. -/
def gather (m : Member α) (target : String) :
    List (Owned α) → Closure α → Closure α × List Finding
  | [], closure => (closure, [])
  | o :: rest, closure =>
    match closure.find? (m.name o.declaration) with
    | some kept =>
      let (answer, findings) := gather m target rest closure
      (answer, declarationConflict m target kept o :: findings)
    | none => gather m target rest (closure.insert (m.name o.declaration) o)

/-- The declarations that an entity shows, with what was found in gathering them. -/
def closure (c : Catalog) (m : Member α) (passes : String → α → Bool) (target : String) :
    Closure α × List Finding :=
  let lineage := c.lineage target
  let (closure, conflicts) := gather m target (lineage.flatMap (c.passedOn m passes)) ∅
  let undefinedNames := lineage.filter fun n => !c.entities.contains n
  (closure, conflicts ++ undefinedNames.map (undefinedAncestor target))

/-- The attributes that an entity shows. -/
def attributeClosure (c : Catalog) (target : String) : Closure Attribute × List Finding :=
  c.closure .attributes c.passesAttribute target

/-- The relationships that an entity shows. -/
def relationshipClosure (c : Catalog) (target : String) :
    Closure RelationshipAttribute × List Finding :=
  c.closure .relationships c.passesRelationship target

/-- The names of the relationships that a type declares, in declared order. -/
def relationshipNames (c : Catalog) (type : String) : List String :=
  (c.entities.find? type).elim [] fun d => d.relationshipAttributes.map (·.name)

/-- The names of the relationships that an entity declares and that none of the given other types
declares. -/
def namesIntroduced (c : Catalog) (entity : String) (superTypes : KeySet String) :
    KeySet String :=
  let inherited := (superTypes.keys.filter (· ≠ entity)).flatMap c.relationshipNames
  KeySet.ofKeys ((c.relationshipNames entity).filter (· ∉ inherited))

/-- What of a closure is not in another one. -/
def without (closure base : Closure α) : Closure α :=
  closure.filter fun name _ => !base.contains name

theorem find?_without (closure base : Closure α) (key : String) :
    (without closure base).find? key =
      if base.contains key = true then none else closure.find? key := by
  rw [without, KeyMap.find?_filter]
  cases hb : base.contains key <;> cases closure.find? key <;> simp

theorem contains_without (closure base : Closure α) (key : String) :
    (without closure base).contains key = (!base.contains key && closure.contains key) := by
  rw [KeyMap.contains, find?_without]
  cases base.contains key <;> rfl

theorem find?_of_without {closure base : Closure α} {key : String} {o : Owned α}
    (h : (without closure base).find? key = some o) : closure.find? key = some o := by
  rw [find?_without] at h
  split at h
  · cases h
  · exact h

end Catalog

end TypeCatalog
