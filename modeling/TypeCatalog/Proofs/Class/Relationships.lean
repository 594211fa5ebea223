import TypeCatalog.Proofs.Class.Own
import TypeCatalog.Proofs.Inheritance.Introduction

/-!
What becomes of the relationships that an entity introduces. All of them are shown, but the tier of
the entity's own relationships leaves out those that the settings would leave out if they were
attributes. Main statement: `own_relationships_are_screened`.
-/

namespace TypeCatalog
open Catalog

section
variable {c : Catalog} {r : Registry} {d : EntityType} {name key : String}

theorem declared_of_introduced (hd : c.entities.find? name = some d)
    (h : (c.introduced name).1.contains key = true) :
    ∃ a ∈ d.relationshipAttributes, a.name = key := by
  have hdeclared := (contains_introduced.1 h).1
  rw [relationshipNames, hd] at hdeclared
  exact List.mem_map.1 hdeclared

/-- The own tier has the names of those relationships that the entity introduces and that would be
shown if they were attributes. -/
theorem contains_own_relationships {v : Visible} {n : String} :
    (EntityClass.ofType c r d v).1.relationships.own.contains n = true ↔
      ∃ a ∈ d.relationshipAttributes, v.introduced.contains a.name = true ∧
        c.shows a.name a.typeName = true ∧ c.config.propertyNameOf a.name = n := by
  have hown : (EntityClass.ofType c r d v).1.relationships.own =
      (PropertySet.insertMade d.name ∅ (c.ownRelationshipProperties r d v.introduced)).1 := rfl
  rw [hown, ownRelationshipProperties, PropertySet.contains_made]
  simp only [List.mem_filter, Bool.and_eq_true, and_assoc]
  exact Iff.rfl

/-- An entity other than the root type shows all relationships that it introduces. -/
theorem shown_of_introduced (hd : c.entities.find? d.name = some d)
    (hroot : d.name ≠ c.config.rootType) (h : (c.introduced d.name).1.contains key = true) :
    (EntityClass.ofType c r d (c.shownOn d.name).1).1.relationships.shown.contains
      (c.config.propertyNameOf key) = true := by
  obtain ⟨a, ha, rfl⟩ := declared_of_introduced hd h
  have hpass : c.passesRelationship d.name a = true := by simp [passesRelationship, hroot]
  obtain ⟨first, hfirst, hcalled⟩ :=
    find?_closure_own (m := .relationships) c.passesRelationship hd ha hpass
  have hcalled := List.find?_some hcalled
  have hname : first.name = a.name := (of_decide_eq_true hcalled).2
  refine contains_relationshipPropertiesOf.2 ⟨⟨d.name, first⟩, ?_, trivial, ?_⟩
  · exact KeyMap.mem_values_iff.2 ⟨a.name, hfirst⟩
  · rw [hname]

end

/-- Whatever a catalog did before, the class of an entity other than the root type shows all
relationships that the entity introduces, and the own tier has the names of just those among them
that are neither skipped as attributes nor of the internal type. -/
theorem own_relationships_are_screened (config : Config) (snapshot : Snapshot)
    (history history' : List Call) (name : String)
    (hname : (Catalog.ofSnapshot config snapshot).1.entities.contains name = true)
    (hroot : name ≠ config.rootType) :
    let c := (Catalog.ofSnapshot config snapshot).1
    let fresh := Store.ofFindings (Catalog.ofSnapshot config snapshot).2
    let introduced := ((c.introducedBy name).run ((history'.mapM c.perform).run fresh).2).1
    ∃ d made, c.entities.find? name = some d ∧
      EntityClass.after? config snapshot history name = some made ∧
      (∀ n, made.relationships.own.contains n = true ↔
        ∃ a ∈ d.relationshipAttributes, introduced.contains a.name = true ∧
          c.shows a.name a.typeName = true ∧ config.propertyNameOf a.name = n) ∧
      (∀ key, introduced.contains key = true → (∃ a ∈ d.relationshipAttributes, a.name = key) ∧
        made.relationships.shown.contains (config.propertyNameOf key) = true) ∧
      ∀ n, made.relationships.own.contains n = true →
        made.relationships.shown.contains n = true := by
  intro c fresh introduced
  obtain ⟨r, d, hd, rfl, hmade⟩ := after?_eq config snapshot history hname
  have hintroduced : introduced = (c.introduced d.name).1 :=
    (gives_introducedBy d.name).answer (history_of_sound history' (.ofFindings _)).2
  have hshown : ∀ key, (c.introduced d.name).1.contains key = true →
      (EntityClass.ofType c r d (c.shownOn d.name).1).1.relationships.shown.contains
        (config.propertyNameOf key) = true := fun key h => shown_of_introduced hd hroot h
  rw [hintroduced]
  refine ⟨d, _, hd, hmade, fun n => contains_own_relationships,
    fun key h => ⟨declared_of_introduced hd h, hshown key h⟩, fun n h => ?_⟩
  obtain ⟨a, -, ha, -, rfl⟩ := contains_own_relationships.1 h
  exact hshown a.name ha

/-- An entity that introduces two relationships, one of them called like an attribute that is skipped
by default. -/
def processSteps : Snapshot where
  entities := [
    { name := "Asset" },
    { name := "Process", superTypes := ["Asset"],
      relationshipAttributes := [
        { name := "inputs", typeName := "array<Asset>", relationship := "process_inputs" },
        { name := "steps", typeName := "array<Asset>", relationship := "process_steps" }] }]

/-- What is not skipped is in the own tier and is shown. -/
theorem process_owns_steps :
    ∃ made, EntityClass.after? {} processSteps [] "Process" = some made ∧
      made.relationships.own.contains "steps" = true ∧
      made.relationships.shown.contains "steps" = true := by
  obtain ⟨d, made, hd, hmade, hown, -, hshown⟩ := own_relationships_are_screened {} processSteps
    [] [] "Process" (by decide +kernel) (by decide)
  have hdeclared : ((ofSnapshot {} processSteps).1.entities.find? "Process").any (fun d =>
      d.relationshipAttributes.contains
        { name := "steps", typeName := "array<Asset>", relationship := "process_steps" }) = true := by
    decide +kernel
  rw [hd, Option.any_some, List.contains_iff_mem] at hdeclared
  have howned := (hown "steps").2
    ⟨_, hdeclared, by decide +kernel, by decide +kernel, by decide +kernel⟩
  exact ⟨made, hmade, howned, hshown "steps" howned⟩

/-- What is skipped as an attribute is not in the own tier, though the entity introduces it and shows
it. -/
theorem process_does_not_own_inputs :
    let c := (Catalog.ofSnapshot {} processSteps).1
    let fresh := Store.ofFindings (Catalog.ofSnapshot {} processSteps).2
    ∃ made, EntityClass.after? {} processSteps [] "Process" = some made ∧
      ((c.introducedBy "Process").run fresh).1.contains "inputs" = true ∧
      made.relationships.shown.contains "inputs" = true ∧
      made.relationships.own.contains "inputs" = false := by
  intro c fresh
  obtain ⟨r, d, hd, hname, hmade⟩ := after?_eq {} processSteps []
    (show c.entities.contains "Process" = true by decide +kernel)
  have hintroduced : (c.introduced "Process").1.contains "inputs" = true := by decide +kernel
  have hrenamed : c.config.propertyNameOf "inputs" = "inputs" := by decide +kernel
  refine ⟨_, hmade, by decide +kernel, ?_, ?_⟩
  · have hshown := shown_of_introduced (r := r) (hname ▸ hd) (by rw [hname]; decide +kernel)
      (hname ▸ hintroduced)
    rwa [hrenamed] at hshown
  · rw [Bool.eq_false_iff]
    intro hown
    obtain ⟨a, ha, -, hshows, hn⟩ := contains_own_relationships.1 hown
    have hnone : (c.entities.find? "Process").any (fun d => d.relationshipAttributes.any fun a =>
        c.shows a.name a.typeName && decide (c.config.propertyNameOf a.name = "inputs")) = false := by
      decide +kernel
    rw [hd, Option.any_some, List.any_eq_false] at hnone
    exact hnone a ha (by rw [hshows, hn]; rfl)

end TypeCatalog
