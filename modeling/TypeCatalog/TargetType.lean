import TypeCatalog.Json.Basic
import TypeCatalog.TypeName

/-!
The types that attributes have in generated classes: a kind, the name in the vocabulary of the
generated classes, the declared base name, and the container around it, if any.
-/

namespace TypeCatalog

/-- What a target type's name denotes. -/
inductive TargetKind | primitive | enumeration | struct | entity
  deriving DecidableEq, Repr

/-- The type of an attribute in a generated class. -/
structure TargetType where
  kind : TargetKind
  /-- The name of the primitive or of the generated class. -/
  name : String
  /-- The name inside the container, as declared. -/
  base : String
  container : Option Container := none
  deriving DecidableEq, Repr

/-- The name of a kind in a document. -/
def TargetKind.label : TargetKind → String
  | .primitive => "primitive"
  | .enumeration => "enum"
  | .struct => "struct"
  | .entity => "asset"

namespace TargetType

/-- Whether the container maps keys to values. -/
def isKeyed (t : TargetType) : Bool := t.container.any Container.isKeyed

/-- Whether the type holds more than one value. -/
def holdsMany (t : TargetType) : Bool := t.container.isSome

/-- The type in a container; structs have no order, so that an array of them is a list. -/
def within (t : TargetType) (container : Option Container) : TargetType :=
  match t.kind, container with
  | .struct, some .sortedSet | .struct, some .listOfMap => { t with container := some .list }
  | _, _ => { t with container }

@[simp] theorem within_kind (t : TargetType) (container : Option Container) :
    (t.within container).kind = t.kind := by
  unfold within
  split <;> rfl

@[simp] theorem within_name (t : TargetType) (container : Option Container) :
    (t.within container).name = t.name := by
  unfold within
  split <;> rfl

@[simp] theorem within_base (t : TargetType) (container : Option Container) :
    (t.within container).base = t.base := by
  unfold within
  split <;> rfl

/-- The document of a target type. -/
def toJson (t : TargetType) : Json :=
  .present [
    ("kind", some (.string t.kind.label)),
    ("name", some (.string t.name)),
    ("base", some (.string t.base)),
    ("container", t.container.map fun c => .string c.label)]

end TargetType

end TypeCatalog
