import TypeCatalog.Proofs.Inheritance.Visibility

/-!
Which types an entity shows declarations of. The walk to the super-types and the walk that gathers
declarations meet the same types up to the root type, and only the second one goes on above it.
Main statements: `reachable_past_root` and `covers_answers`.
-/

namespace TypeCatalog
open Relation

variable {α : Type} {c : Catalog} {m : Member α}

/-- What can be reached is reached without a step up from the root type, or it is above the root
type. -/
theorem reachable_past_root {name type : String} (h : ReflTransGen c.Extends name type) :
    ReflTransGen c.Rises name type ∨
      ReflTransGen c.Rises name c.config.rootType ∧ TransGen c.Extends c.config.rootType type := by
  induction h with
  | refl => exact .inl .refl
  | @tail below above _ hstep ih =>
    rcases ih with hbelow | ⟨hroot, hbelow⟩
    · by_cases hr : below = c.config.rootType
      · exact .inr ⟨hr ▸ hbelow, .single (hr ▸ hstep)⟩
      · exact .inl (hbelow.tail ⟨hr, hstep⟩)
    · exact .inr ⟨hroot, hbelow.tail hstep⟩

/-- A type and its super-types are what is reached without a step up from the root type. -/
theorem self_or_ancestry {name type : String} :
    type = name ∨ (c.ancestry name).1.contains type = true ↔ ReflTransGen c.Rises name type := by
  rw [Catalog.contains_ancestry, reflTransGen_iff_eq_or_transGen]
  constructor
  · rintro (rfl | ⟨-, rfl⟩ | ⟨-, h⟩)
    · exact .inl rfl
    · exact .inl rfl
    · exact .inr h
  · rintro (rfl | h)
    · exact .inl rfl
    · by_cases he : type = name
      · exact .inl he
      · exact .inr (.inr ⟨he, h⟩)

/-- An entity shows declarations of itself, of its super-types, and of types above the root type if
that is one of these; and every declaration that itself or a super-type passes on shows under its
name. -/
structure Covers (c : Catalog) (m : Member α) (passes : String → α → Bool) (name : String)
    (superTypes : KeySet String) (closure : Closure α) : Prop where
  owners : ∀ key o, closure.find? key = some o →
    o.owner = name ∨ superTypes.contains o.owner = true ∨
      (c.config.rootType = name ∨ superTypes.contains c.config.rootType = true) ∧
        TransGen c.Extends c.config.rootType o.owner
  shown : ∀ type d a, type = name ∨ superTypes.contains type = true →
    c.entities.find? type = some d → a ∈ m.declared d → passes type a = true →
    closure.contains (m.name a) = true

/-- What is gathered for an entity covers the walk to its super-types. -/
theorem covers_closure (passes : String → α → Bool) (name : String) :
    Covers c m passes name (c.ancestry name).1 (c.closure m passes name).1 where
  owners key o ho := by
    rcases reachable_past_root (of_find?_closure ho).above with h | ⟨hroot, habove⟩
    · rcases self_or_ancestry.2 h with h | h
      · exact .inl h
      · exact .inr (.inl h)
    · exact .inr (.inr ⟨self_or_ancestry.2 hroot, habove⟩)
  shown type d a htype hd ha hpass := by
    have hreach : ReflTransGen c.Extends name type :=
      ReflTransGen.mono (fun _ _ h => h.2) _ _ (self_or_ancestry.1 htype)
    exact ((shows_closure passes name).keys _).2 ⟨type, d, a, hreach, hd, ha, hpass, rfl⟩

/-- Whatever a catalog was asked before, what it answers about the attributes and the relationships
of an entity covers what it answers about its super-types: all of these show, with what they pass
on, and besides them and the entity only types above the root type do. -/
theorem covers_answers (config : Config) (snapshot : Snapshot) (history : List Call)
    (name : String) :
    let c := (Catalog.ofSnapshot config snapshot).1
    let fresh := Store.ofFindings (Catalog.ofSnapshot config snapshot).2
    let s := ((history.mapM c.perform).run fresh).2
    let superTypes := ((c.superTypesOf name).run s).1
    Covers c .attributes c.passesAttribute name superTypes ((c.attributesOf name).run s).1 ∧
      Covers c .relationships c.passesRelationship name superTypes
        ((c.relationshipsOf name).run s).1 := by
  intro c fresh s superTypes
  have hs : Sound c s := (history_of_sound history (.ofFindings _)).2
  have hsuper : superTypes = (c.ancestry name).1 := (gives_superTypesOf name).answer hs
  rw [hsuper, (gives_attributesOf name).answer hs, (gives_relationshipsOf name).answer hs]
  exact ⟨covers_closure c.passesAttribute name, covers_closure c.passesRelationship name⟩

/-! ### A root type that is not at the top -/

/-- Settings under which the root type is one that has a super-type. -/
def lowRoot : Config := { rootType := "Asset" }

/-- Three levels of entities; the uppermost one declares an attribute. -/
def threeLevels : Snapshot where
  entities := [
    { name := "Referenceable", attributes := [{ name := "qualifiedName", typeName := "string" }] },
    { name := "Asset", superTypes := ["Referenceable"] },
    { name := "Table", superTypes := ["Asset"] }]

theorem lineage_threeLevels :
    (Catalog.ofSnapshot lowRoot threeLevels).1.lineage "Table" =
      ["Table", "Asset", "Referenceable"] := by
  have htable : (Catalog.ofSnapshot lowRoot threeLevels).1.superTypes "Table" = ["Asset"] := by
    decide +kernel
  have hasset : (Catalog.ofSnapshot lowRoot threeLevels).1.superTypes "Asset" =
      ["Referenceable"] := by
    decide +kernel
  have htop : (Catalog.ofSnapshot lowRoot threeLevels).1.superTypes "Referenceable" = [] := by
    decide +kernel
  simp [Catalog.lineage, Catalog.lineageFrom_cons, Catalog.lineageFrom_nil, htable, hasset, htop]

/-- An entity may show an attribute of a type that is neither the entity nor, as far as the walk to
the super-types goes, one of them: the type is above the root type. -/
theorem owner_above_root :
    let c := (Catalog.ofSnapshot lowRoot threeLevels).1
    let fresh := Store.ofFindings (Catalog.ofSnapshot lowRoot threeLevels).2
    ¬ ∀ key o, ((c.attributesOf "Table").run fresh).1.find? key = some o →
      o.owner = "Table" ∨ ((c.superTypesOf "Table").run fresh).1.contains o.owner = true := by
  intro c fresh hall
  have hshown : ((c.attributesOf "Table").run fresh).1.find? "qualifiedName" =
      some ⟨"Referenceable", { name := "qualifiedName", typeName := "string" }⟩ := by
    rw [(gives_attributesOf "Table").answer (.ofFindings _), Catalog.attributeClosure,
      find?_closure, lineage_threeLevels]
    decide +kernel
  have hwalk : ((c.superTypesOf "Table").run fresh).1.contains "Referenceable" = false := by
    decide +kernel
  rcases hall _ _ hshown with h | h
  · exact absurd h (by decide)
  · rw [hwalk] at h
    cases h

end TypeCatalog
