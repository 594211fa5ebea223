import TypeCatalog.Proofs.Class.Typing
import TypeCatalog.Proofs.Inheritance.Locality

/-!
Classes in catalogs that are alike. Two catalogs are alike (`Catalog.Alike`) if they define the same
names under the same settings, but for what is selected to be generated and for what entities are
made of. Main statements: `Alike.shownOn`, and `Alike.ofType`, which says what the selection changes
in the class of an entity.
-/

namespace TypeCatalog
open Relation Catalog

/-- The settings, with other rules for which definitions are generated. -/
def Config.selecting (config : Config) (services excluded : KeySet String) : Config :=
  { config with includeServiceTypes := services, excludeTypes := excluded }

/-- Two catalogs define the same names, and differ at most in which definitions are generated and in
what their entities are made of. -/
def Catalog.Alike (c c' : Catalog) : Prop :=
  ∃ services excluded entities,
    c' = { c with config := c.config.selecting services excluded, entities } ∧
      entities.keys = c.entities.keys

/-- The finding that an entity lists a sub-type which is not defined. -/
def Catalog.undefinedSubType (owner subType : String) : Finding :=
  ⟨.danglingReference, owner, subType, "sub-type has no definition"⟩

variable {c c' : Catalog} {r : Registry} {name : String}

/-- Once all classes have names, the sub-types that are generated are all listed, and those that are
not defined are found. -/
theorem subClassesOf_settled (hr : r.Settled c) (owner : String) (subTypes : List String) :
    c.subClassesOf r owner subTypes =
      ((subTypes.filter c.generates).map c.config.classNameOf,
        (subTypes.filter fun n => !c.entities.contains n).map (undefinedSubType owner)) := by
  induction subTypes with
  | nil => rfl
  | cons subType rest ih =>
    rw [subClassesOf, ih]
    cases hd : c.entities.contains subType with
    | false =>
      have hgenerates : c.generates subType = false := by
        rw [generates, Option.not_isSome_iff_eq_none.1 (Bool.eq_false_iff.1 hd), Option.any_none]
      simp [hd, hgenerates, undefinedSubType]
    | true =>
      cases hgenerates : c.generates subType <;> simp [hd, hgenerates, hr.entities]

namespace Catalog.Alike

theorem contains (h : c.Alike c') (type : String) :
    c'.entities.contains type = c.entities.contains type := by
  obtain ⟨services, excluded, entities, rfl, hkeys⟩ := h
  rw [Bool.eq_iff_iff, ← KeyMap.mem_keys_iff, ← KeyMap.mem_keys_iff, hkeys]

theorem settled (h : c.Alike c') (hr : r.Settled c) : r.Settled c' := by
  refine ⟨?_, ?_, fun base => ?_⟩
  · obtain ⟨services, excluded, entities, rfl, -⟩ := h
    exact hr.enums
  · obtain ⟨services, excluded, entities, rfl, -⟩ := h
    exact hr.structs
  · rw [h.contains, hr.entities]
    obtain ⟨services, excluded, entities, rfl, -⟩ := h
    rfl

/-! ### What is visible -/

theorem attributeClosure (h : c.Alike c') (habove : AgreeAbove c c' name) :
    c'.attributeClosure name = c.attributeClosure name := by
  obtain ⟨services, excluded, entities, rfl, -⟩ := h
  exact closure_congr .attributes habove fun _ _ => rfl

theorem relationshipClosure (h : c.Alike c') (habove : AgreeAbove c c' name) :
    c'.relationshipClosure name = c.relationshipClosure name := by
  obtain ⟨services, excluded, entities, rfl, -⟩ := h
  exact closure_congr .relationships habove fun _ _ => rfl

/-- What is visible on an entity depends on the definitions above it and above the asset type. -/
theorem shownOn (h : c.Alike c') (habove : AgreeAbove c c' name)
    (hasset : AgreeAbove c c' c.config.assetType) : c'.shownOn name = c.shownOn name := by
  obtain ⟨hroot, htype⟩ : c'.config.rootType = c.config.rootType ∧
      c'.config.assetType = c.config.assetType := by
    obtain ⟨services, excluded, entities, rfl, -⟩ := h
    exact ⟨rfl, rfl⟩
  have hbase : c'.isBase name = c.isBase name := by rw [isBase, isBase, hroot, htype]
  have hattributes : c'.addedAttributes name = c.addedAttributes name := by
    rw [addedAttributes, addedAttributes, extraAttributes, extraAttributes, hbase, htype,
      h.attributeClosure habove, h.attributeClosure hasset]
  have hrelationships : c'.addedRelationships name = c.addedRelationships name := by
    rw [addedRelationships, addedRelationships, extraRelationships, extraRelationships, hbase,
      htype, h.relationshipClosure habove, h.relationshipClosure hasset]
  rw [Catalog.shownOn, Catalog.shownOn, hattributes, hrelationships, h.attributeClosure habove,
    h.relationshipClosure habove, introduced_congr hroot habove]

/-! ### What is made -/

/-- Of the same visible things, alike catalogs make the same class of an entity, but for the
sub-types that are generated, and they find the same. -/
theorem ofType (h : c.Alike c') (hr : r.Settled c) (d : EntityType) (v : Visible) :
    let made := EntityClass.ofType c r d v
    let subClasses := (d.subTypes.filter c'.generates).map c.config.classNameOf
    EntityClass.ofType c' r d v =
      ({ made.1 with
          subClasses
          isAbstract := !subClasses.isEmpty && !c.config.forcesConcrete d.name }, made.2) := by
  have hfound : d.subTypes.filter (fun n => !c'.entities.contains n) =
      d.subTypes.filter fun n => !c.entities.contains n :=
    List.filter_congr fun n _ => by rw [h.contains]
  simp only [EntityClass.ofType, subClassesOf_settled hr, subClassesOf_settled (h.settled hr), hfound]
  obtain ⟨services, excluded, entities, rfl, -⟩ := h
  rfl

end Catalog.Alike
end TypeCatalog
