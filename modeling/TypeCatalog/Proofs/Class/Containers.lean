import TypeCatalog.Class.Making
import TypeCatalog.Proofs.TypeName

/-!
The containers of properties. Structs have no order, so that what is written as an array of structs,
or of maps of structs, is a list; every other container stays as it is written, and an attribute
that is given another kind of type keeps its container. Main statements: `typeOfRaw_of_struct`,
`listsStructs_typeAt` and `structs_are_listed`.
-/

namespace TypeCatalog

/-- The container in which structs are held if a container is written around them. -/
def Container.ofStructs : Option Container → Option Container
  | some .sortedSet | some .listOfMap => some .list
  | container => container

/-- If the type is a struct, then it is neither in a set nor in a list of maps. -/
def TargetType.ListsStructs (t : TargetType) : Prop :=
  t.kind = .struct → t.container ∉ [some .sortedSet, some .listOfMap]

namespace TargetType
variable {t : TargetType}

theorem within_of_struct (h : t.kind = .struct) (container : Option Container) :
    (t.within container).container = Container.ofStructs container := by
  cases t
  cases h
  match container with
  | none | some .sortedSet | some .listOfMap | some .map | some .list => rfl

theorem within_of_ne_struct (h : t.kind ≠ .struct) (container : Option Container) :
    (t.within container).container = container := by
  unfold within
  split
  next hstruct => exact absurd hstruct h
  next hstruct => exact absurd hstruct h
  next => rfl

theorem listsStructs_of_ne (h : t.kind ≠ .struct) : t.ListsStructs := fun hstruct =>
  absurd hstruct h

end TargetType

/-! ### Raw names -/

namespace Registry
variable {r : Registry} {base raw : String} {t : TargetType} {container : Option Container}

/-- A bare name denotes a struct: it means no primitive, and it is known as the name of a struct
but not as that of an enumeration. -/
structure DenotesStruct (r : Registry) (base : String) : Prop where
  notPrimitive : Primitive.ofRaw? base = none
  notEnum : r.enums.contains base = false
  isStruct : r.structs.contains base = true

theorem enumName?_eq_none : r.enumName? base = none ↔ r.enums.contains base = false := by
  simp [enumName?, KeyMap.contains]

theorem exists_structName? : (∃ name, r.structName? base = some name) ↔
    r.structs.contains base = true := by
  simp [structName?, KeyMap.contains, Option.isSome_iff_exists]

/-- A struct is found under a name that no enumeration has. -/
theorem kind_of_typeOf? (h : r.typeOf? base = some t) :
    t.kind = .struct ↔ r.enums.contains base = false ∧ r.structs.contains base = true := by
  rw [← enumName?_eq_none, ← exists_structName?]
  rw [typeOf?] at h
  cases henum : r.enumName? base with
  | some name =>
    rw [henum] at h
    cases h
    simp
  | none =>
    cases hstruct : r.structName? base with
    | some name =>
      rw [henum, hstruct] at h
      cases h
      simp
    | none =>
      rw [henum, hstruct] at h
      obtain ⟨name, -, rfl⟩ := Option.map_eq_some_iff.1 h
      simp

section
variable (hsplit : TypeName.split raw = (container, base))
include hsplit

/-- The type of a raw name around a struct's name is that struct in a container for structs. -/
theorem typeOfRaw_of_struct (h : r.DenotesStruct base) :
    (r.typeOfRaw raw).kind = .struct ∧
      (r.typeOfRaw raw).container = Container.ofStructs container := by
  obtain ⟨name, hname⟩ := exists_structName?.2 h.isStruct
  have hfound : r.typeOf? base = some { kind := .struct, name, base } := by
    rw [typeOf?, enumName?_eq_none.2 h.notEnum, hname]
  rw [typeOfRaw, hsplit]
  simp only [h.notPrimitive, hfound]
  exact ⟨TargetType.within_kind _ _, TargetType.within_of_struct rfl _⟩

/-- The type of any other raw name is no struct, and its container is the one that is written. -/
theorem typeOfRaw_of_not_struct (h : ¬ r.DenotesStruct base) :
    (r.typeOfRaw raw).kind ≠ .struct ∧ (r.typeOfRaw raw).container = container := by
  rw [typeOfRaw, hsplit]
  simp only
  cases hprimitive : Primitive.ofRaw? base with
  | some p => exact ⟨nofun, rfl⟩
  | none =>
    simp only
    cases hfound : r.typeOf? base with
    | none => exact ⟨nofun, rfl⟩
    | some t =>
      have hkind : t.kind ≠ .struct := fun hstruct =>
        have hknown := (kind_of_typeOf? hfound).1 hstruct
        h ⟨hprimitive, hknown.1, hknown.2⟩
      exact ⟨by rwa [TargetType.within_kind], TargetType.within_of_ne_struct hkind _⟩

end

theorem listsStructs_typeOfRaw (r : Registry) (raw : String) : (r.typeOfRaw raw).ListsStructs := by
  intro hstruct
  rcases hsplit : TypeName.split raw with ⟨container, base⟩
  by_cases h : r.DenotesStruct base
  · rw [(typeOfRaw_of_struct hsplit h).2]
    match container with
    | none | some .sortedSet | some .listOfMap | some .map | some .list =>
      simp [Container.ofStructs]
  · exact absurd hstruct (typeOfRaw_of_not_struct hsplit h).1

end Registry

/-! ### Properties -/

namespace Property

/-- An enumeration or an entity that takes the place of a struct may be in any container. -/
theorem listsStructs_typeAt (c : Config) (r : Registry) (owner : String) (a : Attribute) :
    (typeAt c r owner a).1.ListsStructs := by
  rw [typeAt]
  cases c.replacement? owner a.name with
  | some base => exact TargetType.listsStructs_of_ne nofun
  | none =>
    simp only [declaredType]
    cases c.forcedEnum? a.name with
    | some base => exact TargetType.listsStructs_of_ne nofun
    | none => exact r.listsStructs_typeOfRaw a.typeName

/-- Whatever is known and configured, the type of a property is never a struct in a set or in a list
of maps. A raw name has a list for a container just if it is an array and a struct is written inside
it; a map of structs is a map of structs; and the container is the one that is written if it is no
list. -/
theorem structs_are_listed (c : Config) (r : Registry) :
    (∀ ofStrings owner declaredBy a,
      (ofAttribute c r ofStrings owner declaredBy a).1.type.ListsStructs) ∧
    (∀ owner declaredBy a, (ofRelationship c r owner declaredBy a).1.type.ListsStructs) ∧
    ∀ raw,
      let (container, base) := TypeName.split raw
      let made := r.typeOfRaw raw
      (made.container = some .list ↔ TypeName.IsArray raw ∧ r.DenotesStruct base) ∧
      (TypeName.IsMap raw → r.DenotesStruct base →
        made.kind = .struct ∧ made.container = some .map) ∧
      (made.container ≠ some .list → made.container = container) := by
  refine ⟨fun _ owner _ a => listsStructs_typeAt c r owner a,
    fun owner _ a => listsStructs_typeAt c r owner a.toAttribute, fun raw => ?_⟩
  have hread : (TypeName.split raw).1 ≠ some .list := fun h =>
    (TypeName.split_eq_iff.1 (Prod.ext h rfl)).2
  rw [TypeName.isArray_iff, TypeName.isMap_iff]
  rcases hsplit : TypeName.split raw with ⟨container, base⟩
  rw [hsplit] at hread
  by_cases hstruct : r.DenotesStruct base
  · obtain ⟨hkind, hcontainer⟩ := Registry.typeOfRaw_of_struct hsplit hstruct
    simp only [hcontainer, hkind, and_iff_left hstruct]
    match container with
    | none | some .sortedSet | some .listOfMap | some .map => simp [Container.ofStructs]
    | some .list => exact absurd rfl hread
  · obtain ⟨-, hcontainer⟩ := Registry.typeOfRaw_of_not_struct hsplit hstruct
    simp only [hcontainer]
    exact ⟨⟨fun h => absurd h hread, fun h => absurd h.2 hstruct⟩, fun _ h => absurd h hstruct,
      fun _ => trivial⟩

/-- Maps of a struct in an array are a list of that struct, and a map of it is a map. -/
theorem boxes_are_listed :
    let r := Registry.addStruct {} { source := "Box", name := "Box" }
    (TypeName.IsArray "array<map<Box>>" ∧ TypeName.IsMap "map<Box>" ∧ r.DenotesStruct "Box") ∧
      (r.typeOfRaw "array<map<Box>>").container = some .list ∧
      (r.typeOfRaw "map<Box>").container = some .map := by
  intro r
  have hlistOfMap : TypeName.split "array<map<Box>>" = (some .listOfMap, "Box") := by decide +kernel
  have hmap : TypeName.split "map<Box>" = (some .map, "Box") := by decide +kernel
  have harray : TypeName.IsArray "array<map<Box>>" := by simp [TypeName.isArray_iff, hlistOfMap]
  have hmapped : TypeName.IsMap "map<Box>" := by simp [TypeName.isMap_iff, hmap]
  have hstruct : r.DenotesStruct "Box" := ⟨by decide +kernel, by decide, by decide⟩
  have hlisted := (structs_are_listed {} r).2.2 "array<map<Box>>"
  have hkept := (structs_are_listed {} r).2.2 "map<Box>"
  rw [hlistOfMap] at hlisted
  rw [hmap] at hkept
  exact ⟨⟨harray, hmapped, hstruct⟩, hlisted.1.2 ⟨harray, hstruct⟩,
    (hkept.2.1 hmapped hstruct).2⟩

end Property

end TypeCatalog
