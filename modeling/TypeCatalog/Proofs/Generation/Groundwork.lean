import TypeCatalog.Proofs.Class.Typing
import TypeCatalog.Proofs.Generation.Workers
import TypeCatalog.Proofs.KeyMap

/-!
What is made before the classes of entities, told by the definitions alone. What is known when a class
is made depends on the order of the work, but the class does not: it refers to other classes by their
names, and these are settled before the first property is made. Main statements: `settled_allNamed`
(what is known then) and `run_groundwork`.
-/

namespace TypeCatalog
open Catalog

/-! ### Names -/

/-- The registry in which all enumerations are made and all structs and entities are named. -/
def Catalog.allNamed (c : Catalog) : Registry :=
  let ofEnums := (c.enums.values.map fun d => (EnumClass.ofType c.config d).1).foldl
    Registry.addEnum {}
  let ofStructs := (c.structs.keys.map (StructClass.named c.config)).foldl Registry.addStruct ofEnums
  (c.entities.keys.map (EntityClass.named c.config)).foldl Registry.addEntity ofStructs

namespace Registry

theorem foldl_addEnum (l : List EnumClass) (r : Registry) :
    l.foldl addEnum r =
      { r with enums := l.foldl (fun m e => m.insert e.source e) r.enums } := by
  induction l generalizing r with
  | nil => rfl
  | cons e l ih => exact ih (r.addEnum e)

theorem foldl_addStruct (l : List StructClass) (r : Registry) :
    l.foldl addStruct r =
      { r with structs := l.foldl (fun m e => m.insert e.source e) r.structs } := by
  induction l generalizing r with
  | nil => rfl
  | cons e l ih => exact ih (r.addStruct e)

theorem foldl_addEntity (l : List EntityClass) (r : Registry) :
    l.foldl addEntity r =
      { r with entities := l.foldl (fun m e => m.insert e.source e) r.entities } := by
  induction l generalizing r with
  | nil => rfl
  | cons e l ih => exact ih (r.addEntity e)

end Registry

/-- The names of classes after filing classes that are called after their sources. -/
theorem name_foldl_insert {κ : Type} {source name : κ → String} {f : String → String} {l : List κ}
    (hname : ∀ e ∈ l, name e = f (source e)) (m : KeyMap String κ) (base : String) :
    ((l.foldl (fun m e => m.insert (source e) e) m).find? base).map name =
      if base ∈ l.map source then some (f base) else (m.find? base).map name := by
  induction l generalizing m with
  | nil => simp
  | cons e l ih =>
    rw [List.foldl_cons, ih fun d hd => hname d (List.mem_cons_of_mem e hd), KeyMap.find?_insert]
    by_cases hb : base = source e
    · simp [hb, hname e List.mem_cons_self]
    · simp [hb]

/-- Classes of all definitions of a kind, each called after its source, know all their names. -/
theorem name_of_sources {κ α : Type} {source name : κ → String} {f : String → String} {l : List κ}
    {definitions : KeyMap String α} (hsources : l.map source = definitions.keys)
    (hname : ∀ e ∈ l, name e = f (source e)) (base : String) :
    ((l.foldl (fun (m : KeyMap String κ) e => m.insert (source e) e) ∅).find? base).map name =
      if definitions.contains base = true then some (f base) else none := by
  rw [name_foldl_insert hname, hsources]
  simp only [KeyMap.mem_keys_iff, KeyMap.find?_empty, Option.map_none]

section
variable {c : Catalog}

/-- Things that are filed under their own names are listed in the order of their names. -/
theorem names_values {α : Type} {name : α → String} {m : KeyMap String α}
    (hname : ∀ key d, m.find? key = some d → name d = key) : m.values.map name = m.keys := by
  rw [KeyMap.values, KeyMap.keys, List.map_map]
  exact List.map_congr_left fun e he => hname e.1 e.2 (KeyMap.mem_entries_iff.1 he)

/-- Before the first property is made, the names that are known are those of all definitions. -/
theorem settled_allNamed (hnamed : c.Named) : c.allNamed.Settled c where
  enums base := by
    have hsources : (c.enums.values.map fun d => (EnumClass.ofType c.config d).1).map (·.source) =
        c.enums.keys := by
      rw [List.map_map]
      exact names_values hnamed.enums
    simp only [allNamed, Registry.foldl_addEnum, Registry.foldl_addStruct,
      Registry.foldl_addEntity, Registry.enumName?]
    refine name_of_sources hsources (fun e he => ?_) base
    obtain ⟨d, -, rfl⟩ := List.mem_map.1 he
    rfl
  structs base := by
    have hsources : (c.structs.keys.map (StructClass.named c.config)).map (·.source) =
        c.structs.keys := by
      rw [List.map_map]
      exact List.map_id _
    simp only [allNamed, Registry.foldl_addEnum, Registry.foldl_addStruct,
      Registry.foldl_addEntity, Registry.structName?]
    refine name_of_sources hsources (fun e he => ?_) base
    obtain ⟨source, -, rfl⟩ := List.mem_map.1 he
    rfl
  entities base := by
    have hsources : (c.entities.keys.map (EntityClass.named c.config)).map (·.source) =
        c.entities.keys := by
      rw [List.map_map]
      exact List.map_id _
    simp only [allNamed, Registry.foldl_addEnum, Registry.foldl_addStruct,
      Registry.foldl_addEntity, Registry.entityName?]
    refine name_of_sources hsources (fun e he => ?_) base
    obtain ⟨source, -, rfl⟩ := List.mem_map.1 he
    rfl

end

/-! ### Steps -/

section
variable {α κ : Type} {make : α → κ × List Finding} {add : Registry → κ → Registry}
  {step : α → Step (α × κ)}

/-- A class that is made of a definition is filed, and what was found in making it is logged. -/
theorem run_filing (d : α) (made : κ × List Finding) (s : Store) :
    (do let answer ← Step.yield made
        Step.register (add · answer)
        return (d, answer) : Step (α × κ)).run s =
      ((d, made.1), { s with registry := add s.registry made.1, log := s.log.addAll made.2 }) := by
  simp only [Step.yield, Step.register, Work.run_bind, Work.run_pure, Work.run_modify, Step.run_report]

/-- The class may be made of what is known then. -/
theorem run_making (add : Registry → κ → Registry) (makeOn : Registry → κ × List Finding) (d : α)
    {made : κ × List Finding} {s : Store} (hmade : makeOn s.registry = made) :
    (do let answer ← Step.yield (makeOn (← get).registry)
        Step.register (add · answer)
        return (d, answer) : Step (α × κ)).run s =
      ((d, made.1), { s with registry := add s.registry made.1, log := s.log.addAll made.2 }) := by
  rw [Work.run_bind, Work.run_get, hmade]
  exact run_filing d made s

/-- Steps each of which makes the class of one definition, logs what was found in making it and files
the class, one after another. What holds of the registry may depend on what is still to be made. -/
theorem run_each (holds : List α → Registry → Prop)
    (hstep : ∀ d rest (s : Store), holds (d :: rest) s.registry →
      (step d).run s = ((d, (make d).1), { s with
        registry := add s.registry (make d).1, log := s.log.addAll (make d).2 }) ∧
      holds rest (add s.registry (make d).1))
    {l : List α} {s : Store} (hs : holds l s.registry) :
    (l.mapM step).run s = (l.map fun d => (d, (make d).1), { s with
      registry := (l.map fun d => (make d).1).foldl add s.registry
      log := s.log.addAll (l.flatMap fun d => (make d).2) }) ∧
    holds [] ((l.map fun d => (make d).1).foldl add s.registry) := by
  induction l generalizing s with
  | nil => exact ⟨rfl, hs⟩
  | cons d l ih =>
    obtain ⟨hrun, hnext⟩ := hstep d l s hs
    -- the rest is made on the store that the first step leaves
    obtain ⟨hrest, hend⟩ := ih (s := { s with
      registry := add s.registry (make d).1, log := s.log.addAll (make d).2 }) hnext
    refine ⟨?_, hend⟩
    simp only [List.mapM_cons, Work.run_bind, Work.run_pure, hrun, hrest, List.map_cons,
      List.foldl_cons, List.flatMap_cons, Log.addAll_append]

end

/-! ### Structs -/

section
variable {c : Catalog} {r : Registry}

/-- Of a struct whose class has a name and is not made yet, nothing else is known. -/
theorem named_of_allNamed {name : String} {known : StructClass}
    (h : c.allNamed.structs.find? name = some known) : known = StructClass.named c.config name := by
  simp only [allNamed, Registry.foldl_addEnum, Registry.foldl_addStruct,
    Registry.foldl_addEntity] at h
  rcases KeyMap.find?_foldl_insert StructClass.source id h with ⟨e, he, rfl, rfl⟩ | h
  · obtain ⟨source, -, rfl⟩ := List.mem_map.1 he
    rfl
  · cases h

theorem find?_allNamed (hnamed : c.Named) {name : String} (h : c.structs.contains name = true) :
    c.allNamed.structs.find? name = some (StructClass.named c.config name) := by
  have hname := (settled_allNamed hnamed).structs name
  rw [if_pos h] at hname
  obtain ⟨known, hknown, -⟩ := Option.map_eq_some_iff.1 hname
  rw [hknown, named_of_allNamed hknown]

/-- Of the structs that are still to be made only the names are known. -/
structure Registry.Awaits (c : Catalog) (l : List StructType) (r : Registry) : Prop where
  settled : r.Settled c
  defined : ∀ d ∈ l, c.structs.contains d.name = true
  distinct : (l.map (·.name)).Nodup
  named : ∀ d ∈ l, r.structs.find? d.name = some (StructClass.named c.config d.name)

theorem awaits_allNamed (hnamed : c.Named) : c.allNamed.Awaits c c.structs.values := by
  have hdefined : ∀ d ∈ c.structs.values, c.structs.contains d.name = true := fun d hd => by
    obtain ⟨key, hkey⟩ := KeyMap.mem_values_iff.1 hd
    rw [hnamed.structs key d hkey, KeyMap.contains, hkey]
    rfl
  refine ⟨settled_allNamed hnamed, hdefined, ?_, fun d hd => find?_allNamed hnamed (hdefined d hd)⟩
  rw [names_values hnamed.structs]
  exact c.structs.nodup_keys

/-- A struct that is made is made of its name, and of all others as much is known as before. -/
theorem Registry.Awaits.next (hnamed : c.Named) {d : StructType} {l : List StructType}
    (h : r.Awaits c (d :: l)) :
    StructClass.ofType c.config r d = StructClass.ofType c.config c.allNamed d ∧
      (r.addStruct (StructClass.ofType c.config c.allNamed d).1).Awaits c l := by
  have hknown := h.named d List.mem_cons_self
  have hdefined := h.defined d List.mem_cons_self
  have hallNamed := find?_allNamed hnamed hdefined
  obtain ⟨hfresh, hdistinct⟩ := List.nodup_cons.1 h.distinct
  obtain ⟨hsource, hname⟩ : (StructClass.ofType c.config c.allNamed d).1.source = d.name ∧
      (StructClass.ofType c.config c.allNamed d).1.name = c.config.classNameOf d.name := by
    rw [StructClass.ofType, hallNamed]
    exact ⟨rfl, rfl⟩
  refine ⟨struct_congr ((settled_allNamed hnamed).sameNames h.settled)
      (hknown.trans hallNamed.symm), ?_,
    fun e he => h.defined e (List.mem_cons_of_mem d he), hdistinct, fun e he => ?_⟩
  · exact h.settled.addStruct (hsource ▸ hdefined) (hsource ▸ hname)
  · -- names are distinct, so that the new class takes the place of no class that is still to be made
    have hne : e.name ≠ d.name := fun heq => hfresh (List.mem_map.2 ⟨e, he, heq⟩)
    rw [Registry.find?_addStruct, hsource, if_neg hne]
    exact h.named e (List.mem_cons_of_mem d he)

end

/-! ### Groundwork -/

namespace Catalog

/-- What is made before the classes of entities. -/
def groundworkMade (c : Catalog) : Groundwork where
  enums := c.enums.values.map fun d => (d, (EnumClass.ofType c.config d).1)
  structs := c.structs.values.map fun d => (d, (StructClass.ofType c.config c.allNamed d).1)
  relationships :=
    c.relationships.values.map fun d => (d, (RelationshipClass.ofType c.config c.allNamed d).1)
  roster := { names := c.entities.keys.toArray }

/-- What is found in making it. -/
def groundworkFound (c : Catalog) : List Finding :=
  c.enums.values.flatMap (fun d => (EnumClass.ofType c.config d).2) ++
    c.structs.values.flatMap (fun d => (StructClass.ofType c.config c.allNamed d).2) ++
    c.relationships.values.flatMap fun d => (RelationshipClass.ofType c.config c.allNamed d).2

/-- The registry in which all classes are made but those of entities, which are named. -/
def allMade (c : Catalog) : Registry :=
  (c.groundworkMade.relationships.map (·.2)).foldl Registry.addRelationship <|
    (c.groundworkMade.structs.map (·.2)).foldl Registry.addStruct c.allNamed

end Catalog

section
variable {c : Catalog}

theorem run_enums (s : Store) :
    c.enumClasses.run s = (c.groundworkMade.enums, { s with
      registry := (c.groundworkMade.enums.map (·.2)).foldl Registry.addEnum s.registry
      log := s.log.addAll (c.enums.values.flatMap fun d => (EnumClass.ofType c.config d).2) }) := by
  rw [groundworkMade, List.map_map]
  exact (run_each (fun _ _ => True)
    (fun d _ s _ => ⟨run_filing d (EnumClass.ofType c.config d) s, trivial⟩) trivial).1

theorem run_structs (hnamed : c.Named) {s : Store} (hs : s.registry = c.allNamed) :
    c.structClasses.run s = (c.groundworkMade.structs, { s with
      registry := (c.groundworkMade.structs.map (·.2)).foldl Registry.addStruct s.registry
      log := s.log.addAll
        (c.structs.values.flatMap fun d => (StructClass.ofType c.config c.allNamed d).2) }) ∧
    ((c.groundworkMade.structs.map (·.2)).foldl Registry.addStruct s.registry).Settled c := by
  have hawaits : s.registry.Awaits c c.structs.values := hs ▸ awaits_allNamed hnamed
  rw [groundworkMade, List.map_map]
  obtain ⟨hrun, hend⟩ := run_each (Registry.Awaits c) (fun d _ s h =>
    ⟨run_making Registry.addStruct (fun r => StructClass.ofType c.config r d) d (h.next hnamed).1,
      (h.next hnamed).2⟩) hawaits
  exact ⟨hrun, hend.settled⟩

theorem run_relationships (hnamed : c.Named) {s : Store} (hs : s.registry.Settled c) :
    c.relationshipClasses.run s = (c.groundworkMade.relationships, { s with
      registry :=
        (c.groundworkMade.relationships.map (·.2)).foldl Registry.addRelationship s.registry
      log := s.log.addAll (c.relationships.values.flatMap
        fun d => (RelationshipClass.ofType c.config c.allNamed d).2) }) ∧
    ((c.groundworkMade.relationships.map (·.2)).foldl Registry.addRelationship
      s.registry).Settled c := by
  rw [groundworkMade, List.map_map]
  exact run_each (fun _ => Registry.Settled c) (fun d _ s h =>
    ⟨run_making Registry.addRelationship (fun r => RelationshipClass.ofType c.config r d) d
      (relationship_congr ((settled_allNamed hnamed).sameNames h) d), h.addRelationship _⟩) hs

/-- The names are known once the enumerations are made. -/
theorem run_named (fs : List Finding) :
    (c.nameEntities.run (c.nameStructs.run (c.enumClasses.run (Store.ofFindings fs)).2).2).2 =
      { registry := c.allNamed
        log := (Log.addAll {} fs).addAll
          (c.enums.values.flatMap fun d => (EnumClass.ofType c.config d).2) } := by
  have hmade : c.groundworkMade.enums.map (·.2) =
      c.enums.values.map fun d => (EnumClass.ofType c.config d).1 := by
    rw [groundworkMade, List.map_map]
    rfl
  simp only [run_enums, nameStructs, nameEntities, Step.register, Work.run_bind, Work.run_pure,
    Work.run_modify, hmade]
  rfl

/-- The groundwork of a run, whose classes do not depend on the order in which they are made. -/
theorem run_groundwork (hnamed : c.Named) (fs : List Finding) :
    c.groundwork.run (Store.ofFindings fs) =
      (c.groundworkMade, { registry := c.allMade, log := Log.addAll {} (fs ++ c.groundworkFound) }) ∧
    c.allMade.Settled c := by
  have henums : (c.enumClasses.run (Store.ofFindings fs)).1 = c.groundworkMade.enums := by
    rw [run_enums]
  obtain ⟨hstructs, hsettled⟩ := run_structs hnamed (s := {
    registry := c.allNamed
    log := (Log.addAll {} fs).addAll
      (c.enums.values.flatMap fun d => (EnumClass.ofType c.config d).2) }) rfl
  obtain ⟨hrelationships, hall⟩ := run_relationships hnamed (s := {
    registry := (c.groundworkMade.structs.map (·.2)).foldl Registry.addStruct c.allNamed
    log := ((Log.addAll {} fs).addAll
      (c.enums.values.flatMap fun d => (EnumClass.ofType c.config d).2)).addAll
        (c.structs.values.flatMap fun d => (StructClass.ofType c.config c.allNamed d).2) }) hsettled
  refine ⟨?_, hall⟩
  simp only [groundwork, Work.run_bind, Work.run_pure, run_named, henums, hstructs, hrelationships,
    groundworkFound, Log.addAll_append]
  rfl

theorem settled_allMade (hnamed : c.Named) : c.allMade.Settled c := (run_groundwork hnamed []).2

end

end TypeCatalog
