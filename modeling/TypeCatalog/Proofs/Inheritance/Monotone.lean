import TypeCatalog.Proofs.Inheritance.Visibility

/-!
Inheritance only adds. Whatever is above a type is above everything below the type too, so that an
entity shows all names that the types above it show, whichever declarations it keeps under them. Main
statements: `contains_closure_of_above`, `parts_without` and `inheritance_only_adds`.
-/

namespace TypeCatalog
open Relation

variable {α : Type} {c : Catalog} {m : Member α}

/-- An entity shows every name that a type above it shows. -/
theorem contains_closure_of_above {passes : String → α → Bool} {name above key : String}
    (h : ReflTransGen c.Extends name above)
    (hkey : (c.closure m passes above).1.contains key = true) :
    (c.closure m passes name).1.contains key = true := by
  obtain ⟨type, d, a, hreach, hd, ha, hpass, hname⟩ := ((shows_closure passes above).keys key).1 hkey
  -- whether a type passes a declaration on does not depend on the entity that shows it
  exact ((shows_closure passes name).keys key).2
    ⟨type, d, a, h.trans hreach, hd, ha, hpass, hname⟩

/-- A closure has the names of two others that share none, and the entries of the first one of
them. -/
structure Parts (whole extra base : Closure α) : Prop where
  names : ∀ key, whole.contains key = true ↔ extra.contains key = true ∨ base.contains key = true
  disjoint : ∀ key, extra.contains key = true → base.contains key = false
  kept : ∀ key o, extra.find? key = some o → whole.find? key = some o

/-- What of a closure is not in another one, and the other one, are parts of it if it has all names
of the other one. -/
theorem parts_without {whole base : Closure α}
    (h : ∀ key, base.contains key = true → whole.contains key = true) :
    Parts whole (Catalog.without whole base) base where
  names key := by
    rw [Catalog.contains_without]
    cases hbase : base.contains key with
    | true => simp [h key hbase]
    | false => simp
  disjoint key hkey := by
    rw [Catalog.contains_without, Bool.and_eq_true, Bool.not_eq_true'] at hkey
    exact hkey.1
  kept _ _ := Catalog.find?_of_without

/-- Whatever a catalog was asked before, an entity shows all names of attributes and of relationships
that a type above it shows. If the asset type is above it, what it shows falls into what the asset
type shows and what it adds. -/
theorem inheritance_only_adds (config : Config) (snapshot : Snapshot) (history : List Call)
    (name above : String) :
    let c := (Catalog.ofSnapshot config snapshot).1
    let fresh := Store.ofFindings (Catalog.ofSnapshot config snapshot).2
    let s := ((history.mapM c.perform).run fresh).2
    (ReflTransGen c.Extends name above →
      (∀ key, ((c.attributesOf above).run s).1.contains key = true →
        ((c.attributesOf name).run s).1.contains key = true) ∧
      ∀ key, ((c.relationshipsOf above).run s).1.contains key = true →
        ((c.relationshipsOf name).run s).1.contains key = true) ∧
    (ReflTransGen c.Extends name config.assetType →
      Parts ((c.attributesOf name).run s).1 ((c.extraAttributesOf name).run s).1
          ((c.attributesOf config.assetType).run s).1 ∧
        Parts ((c.relationshipsOf name).run s).1 ((c.extraRelationshipsOf name).run s).1
          ((c.relationshipsOf config.assetType).run s).1) := by
  intro c fresh s
  have hs : Sound c s := (history_of_sound history (.ofFindings _)).2
  have hattributes : ∀ n, ((c.attributesOf n).run s).1 = (c.attributeClosure n).1 :=
    fun n => (gives_attributesOf n).answer hs
  have hrelationships : ∀ n, ((c.relationshipsOf n).run s).1 = (c.relationshipClosure n).1 :=
    fun n => (gives_relationshipsOf n).answer hs
  rw [(gives_extraAttributesOf name).answer hs, (gives_extraRelationshipsOf name).answer hs]
  simp only [hattributes, hrelationships]
  constructor
  · exact fun h => ⟨fun key => contains_closure_of_above h, fun key => contains_closure_of_above h⟩
  · intro h
    exact ⟨parts_without fun key => contains_closure_of_above h,
      parts_without fun key => contains_closure_of_above h⟩

/-! ### Types that are above each other -/

/-- An asset type, and below it two entities each of which is above the other one; all of them declare
an attribute of the same name. -/
def knottedPair : Snapshot where
  entities := [
    { name := "Asset", attributes := [{ name := "name", typeName := "string" }] },
    { name := "Table", superTypes := ["View", "Asset"],
      attributes := [{ name := "name", typeName := "int" }] },
    { name := "View", superTypes := ["Table"], attributes := [{ name := "name", typeName := "date" },
        { name := "query", typeName := "string" }] }]

theorem extends_knottedPair :
    let c := (Catalog.ofSnapshot {} knottedPair).1
    c.Extends "View" "Table" ∧ c.Extends "Table" "View" ∧ c.Extends "Table" "Asset" := by
  unfold Catalog.Extends
  decide +kernel

/-- Each of the two shows all names that the other one shows, and the names of the asset type. -/
theorem knotted_pair_shows_alike :
    let c := (Catalog.ofSnapshot {} knottedPair).1
    let fresh := Store.ofFindings (Catalog.ofSnapshot {} knottedPair).2
    (∀ key, ((c.attributesOf "View").run fresh).1.contains key = true ↔
      ((c.attributesOf "Table").run fresh).1.contains key = true) ∧
    Parts ((c.attributesOf "View").run fresh).1 ((c.extraAttributesOf "View").run fresh).1
      ((c.attributesOf "Asset").run fresh).1 := by
  intro c fresh
  obtain ⟨hdown, hup, hasset⟩ := extends_knottedPair
  obtain ⟨hview, hparts⟩ := inheritance_only_adds {} knottedPair [] "View" "Table"
  obtain ⟨htable, -⟩ := inheritance_only_adds {} knottedPair [] "Table" "View"
  refine ⟨fun key => ⟨(htable (.single hup)).1 key, (hview (.single hdown)).1 key⟩, ?_⟩
  exact (hparts (.head hdown (.single hasset))).1

end TypeCatalog
