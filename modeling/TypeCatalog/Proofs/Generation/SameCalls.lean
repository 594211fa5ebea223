import TypeCatalog.Proofs.Generation.Runs
import TypeCatalog.Proofs.Generation.Workers
import TypeCatalog.Proofs.Inheritance.History

/-!
The same calls on two catalogs that define the same names and generate the same entities
(`Catalog.Matches`). After the same calls, classes are known by the same names on both, whatever the
entities are made of. Main statements: `twins_perform` for one call, and `twins_history`.
-/

namespace TypeCatalog
open Catalog

variable {c c' : Catalog} {α β : Type}

/-! ### Steps that only look -/

/-- A step leaves the registry as it is, and what it gives depends on the registry alone. -/
def Looks (c : Catalog) (step : Step α) : Prop :=
  ∀ r, ∃ made, Gives c (· = r) (fun _ => True) step made

namespace Looks

theorem run {step : Step α} {s : Store} (h : Looks c step) (hs : Sound c s) :
    (step.run s).2.registry = s.registry := by
  obtain ⟨_, hgives⟩ := h s.registry
  exact (hgives.run (fun _ _ => trivial) ⟨hs, rfl, fun _ _ => trivial⟩).2.1.2.1

theorem map {step : Step α} (h : Looks c step) (f : α → β) :
    Looks c (step >>= fun a => pure (f a)) := fun r => (h r).elim fun _ hgives => ⟨_, hgives.map f⟩

theorem yield (made : α × List Finding) : Looks c (Step.yield made) := fun _ => ⟨made, .yield made⟩

/-- Something may be made of what is known. -/
theorem making (make : Registry → α × List Finding) :
    Looks c (do let _ ← Step.yield (make (← get).registry) : Step Unit) := by
  intro r
  refine ⟨((), (make r).2), Gives.ofRegistry (fun r => do let _ ← Step.yield (make r)) ?_⟩
  rintro _ rfl
  exact (Gives.yield _).map fun _ => ()

end Looks

theorem looks_ask (question : Question) : Looks c (c.ask question) := fun _ =>
  match question with
  | .superTypes name => ⟨_, (gives_superTypesOf name).map _⟩
  | .attributes name => ⟨_, (gives_attributesOf name).map _⟩
  | .relationships name => ⟨_, (gives_relationshipsOf name).map _⟩
  | .introduced name => ⟨_, (gives_introducedBy name).map _⟩
  | .extraAttributes name => ⟨_, (gives_extraAttributesOf name).map _⟩
  | .extraRelationships name => ⟨_, (gives_extraRelationshipsOf name).map _⟩

/-! ### Classes on a roster -/

/-- The classes of entities on a roster that are generated, by source. -/
def Catalog.rosterClasses (c : Catalog) (r : Registry) (roster : Roster) : List EntityClass :=
  ((roster.names.toList.filter c.generates).filterMap fun name => (c.classOf r name).1).mergeSort
    fun a b => (compare a.source b.source).isLE

/-- Making the classes of all entities on a roster files them. -/
theorem registry_entityClasses {s : Store} (hs : Sound c s) (roster : Roster) (workers : Nat)
    (schedule : List Nat) :
    ((c.entityClasses roster workers schedule).run s).2.registry =
      (c.rosterClasses s.registry roster).foldl Registry.addEntity s.registry := by
  obtain ⟨hanswer, hmade⟩ := run_at_once hs schedule
    (shares workers (roster.names.toList.filter c.generates))
  have hclasses : ((Work.together schedule ((shares workers
      (roster.names.toList.filter c.generates)).map fun share =>
        share.mapM c.entityClass?)).run s).1.flatten.filterMap id =
      (roster.names.toList.filter c.generates).filterMap fun name =>
        (c.classOf s.registry name).1 := by
    rw [hanswer, ← List.map_flatten, flatten_shares, List.filterMap_map]
    rfl
  rw [rosterClasses, ← hclasses, ← hmade.registry]
  simp only [Catalog.entityClasses, Work.run_bind, Work.run_pure, Step.register, Work.run_modify]

/-! ### The same calls -/

/-- Two catalogs define the same names, generate the same entities, and file every definition under
its own name. -/
structure Catalog.Matches (c c' : Catalog) : Prop where
  alike : c.Alike c'
  generates : c'.generates = c.generates
  named : c.Named
  named' : c'.Named

/-- The stores of two catalogs are sound and know classes by the same names. -/
structure Twins (c c' : Catalog) (s s' : Store) : Prop where
  sound : Sound c s
  sound' : Sound c' s'
  names : s.registry.SameNames s'.registry

theorem Twins.ofFindings (fs fs' : List Finding) :
    Twins c c' (Store.ofFindings fs) (Store.ofFindings fs') :=
  ⟨.ofFindings fs, .ofFindings fs', ⟨rfl, rfl, rfl⟩⟩

section
variable {r r' : Registry} {s s' : Store}

/-- The class of an entity that has a definition has the name that is known, or else the one that
the settings give. -/
theorem label_classOf (hnamed : c.Named) (name : String) :
    (c.classOf r name).1.map EntityClass.label =
      if c.entities.contains name = true then
        some (name, (r.entityName? name).getD (c.config.classNameOf name))
      else none := by
  rw [classOf, KeyMap.contains]
  cases hd : c.entities.find? name with
  | none => rfl
  | some d =>
    obtain rfl := hnamed.entities name d hd
    rfl

/-- The classes on a roster may differ, but not in their labels, by which they are sorted. -/
theorem labels_rosterClasses (hc : c.Matches c') (h : r.SameNames r') (roster : Roster) :
    (c'.rosterClasses r' roster).map EntityClass.label =
      (c.rosterClasses r roster).map EntityClass.label := by
  have hsort : ∀ l : List EntityClass,
      (l.mergeSort fun a b => (compare a.source b.source).isLE).map EntityClass.label =
        (l.map EntityClass.label).mergeSort fun a b => (compare a.1 b.1).isLE :=
    fun l => List.map_mergeSort fun _ _ _ _ => rfl
  have hlabel : ∀ name, (c'.classOf r' name).1.map EntityClass.label =
      (c.classOf r name).1.map EntityClass.label := by
    intro name
    rw [label_classOf hc.named, label_classOf hc.named', hc.alike.contains, h.entities]
    obtain ⟨services, excluded, entities, rfl, -⟩ := hc.alike
    rfl
  simp only [rosterClasses, hsort, List.map_filterMap, hlabel, hc.generates]

/-- What is done changes the names that are known alike, or not at all. -/
theorem sameNames_act (hc : c.Matches c') (h : Twins c c' s s') (action : Action) :
    ((c.act action).run s).2.registry.SameNames ((c'.act action).run s').2.registry := by
  have hlooks : Looks c (c.act action) → Looks c' (c'.act action) →
      ((c.act action).run s).2.registry.SameNames ((c'.act action).run s').2.registry := by
    intro hstep hstep'
    rw [hstep.run h.sound, hstep'.run h.sound']
    exact h.names
  obtain ⟨services, excluded, entities, rfl, hkeys⟩ := hc.alike
  cases action with
  | report findings => exact hlooks (fun _ => ⟨_, .report findings⟩) fun _ => ⟨_, .report findings⟩
  | registerEnum made => exact h.names.addEnum made
  | registerStruct made => exact h.names.addStruct made
  | registerEntity made => exact h.names.addEntity rfl
  | registerRelationship made => exact ⟨h.names.enums, h.names.structs, h.names.entities⟩
  | nameStructs => exact h.names.foldl_addStruct _
  | nameEntities =>
    refine h.names.foldl_addEntity ?_
    simp only [hkeys]
    rfl
  | makeEnum d => exact hlooks ((Looks.yield _).map _) ((Looks.yield _).map _)
  | makeProperty ofStrings owner declaredBy a =>
    exact hlooks (.making (Property.ofAttribute _ · ofStrings owner declaredBy a))
      (.making (Property.ofAttribute _ · ofStrings owner declaredBy a))
  | makeRelationshipProperty owner declaredBy a =>
    exact hlooks (.making (Property.ofRelationship _ · owner declaredBy a))
      (.making (Property.ofRelationship _ · owner declaredBy a))
  | makeStruct d =>
    exact hlooks (.making (StructClass.ofType _ · d)) (.making (StructClass.ofType _ · d))
  | makeRelationship d =>
    exact hlooks (.making (RelationshipClass.ofType _ · d))
      (.making (RelationshipClass.ofType _ · d))
  | makeEntity name =>
    exact hlooks (fun _ => ⟨_, (gives_entityClass? name).map _⟩)
      fun _ => ⟨_, (gives_entityClass? name).map _⟩
  | makeEntities roster workers schedule =>
    have hrun : ∀ {c : Catalog} {s : Store}, Sound c s →
        ((c.act (.makeEntities roster workers schedule)).run s).2.registry =
          (c.rosterClasses s.registry roster).foldl Registry.addEntity s.registry := by
      intro c s hs
      rw [act, Work.run_bind, Work.run_pure, registry_entityClasses hs]
    rw [hrun h.sound, hrun h.sound']
    exact h.names.foldl_addEntity (labels_rosterClasses hc h.names roster)

/-- After one more call, the same on both, classes are still known by the same names. -/
theorem twins_perform (hc : c.Matches c') (h : Twins c c' s s') (call : Call) :
    Twins c c' ((c.perform call).run s).2 ((c'.perform call).run s').2 where
  sound := ((keeps_perform call).run h.sound).2
  sound' := ((keeps_perform call).run h.sound').2
  names := by
    cases call with
    | ask question =>
      have hlooks : ∀ c : Catalog, Looks c (c.perform (.ask question)) :=
        fun c => (looks_ask question).map some
      rw [(hlooks c).run h.sound, (hlooks c').run h.sound']
      exact h.names
    | act action =>
      simp only [perform, Work.run_bind, Work.run_pure]
      exact sameNames_act hc h action

/-- And so they are after any history of calls. -/
theorem twins_history (hc : c.Matches c') (h : Twins c c' s s') (history : List Call) :
    Twins c c' ((history.mapM c.perform).run s).2 ((history.mapM c'.perform).run s').2 := by
  induction history generalizing s s' with
  | nil => exact h
  | cons call rest ih =>
    simp only [List.mapM_cons, Work.run_bind, Work.run_pure]
    exact ih (twins_perform hc h call)

end

end TypeCatalog
