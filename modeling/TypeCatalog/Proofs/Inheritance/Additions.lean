import TypeCatalog.Proofs.Inheritance.History

/-!
What can happen to a store. Whatever a catalog is asked to do, it does by single additions: a
finding is logged, an answer is memorised, or a class is registered under its source
(`Store.Adds`). What no addition takes away is never lost, and what every addition keeps is true of
all stores. Main statements: `adding_perform` and `adds_history`, and from these
`remembers_of_adds` and `filesStructs_history`.
-/

namespace TypeCatalog
open Relation Catalog

/-! ### Additions -/

/-- An answer is memorised. -/
inductive Memo.Adds (m : Memo) : Memo → Prop
  | superTypes (name answer) : Adds m { m with superTypes := m.superTypes.insert name answer }
  | attributes (name answer) : Adds m { m with attributes := m.attributes.insert name answer }
  | relationships (name answer) :
      Adds m { m with relationships := m.relationships.insert name answer }
  | introduced (name answer) : Adds m { m with introduced := m.introduced.insert name answer }
  | extraAttributes (name answer) :
      Adds m { m with extraAttributes := m.extraAttributes.insert name answer }
  | extraRelationships (name answer) :
      Adds m { m with extraRelationships := m.extraRelationships.insert name answer }

/-- A class is registered. -/
inductive Registry.Adds (r : Registry) : Registry → Prop
  | enum (made) : Adds r (r.addEnum made)
  | struct (made) : Adds r (r.addStruct made)
  | entity (made) : Adds r (r.addEntity made)
  | relationship (made) : Adds r (r.addRelationship made)

/-- One thing is added to a store. -/
inductive Store.Adds (s : Store) : Store → Prop
  | log (f : Finding) : Adds s { s with log := s.log.add f }
  | memorise {m : Memo} (h : s.memo.Adds m) : Adds s { s with memo := m }
  | register {r : Registry} (h : s.registry.Adds r) : Adds s { s with registry := r }

/-- Workers on a store who do nothing but add to it. -/
def Store.additions : Discipline Store where
  holds _ := True
  later := ReflTransGen Store.Adds
  refl _ := .refl
  trans := ReflTransGen.trans

variable {c : Catalog} {α β : Type}

/-- A step does nothing but add to the store. -/
def Adding (step : Step α) : Prop :=
  step.Always Store.additions fun _ => True

namespace Adding
variable {step : Step α} {next : α → Step β}

theorem pure (a : α) : Adding (Pure.pure a) := Work.Always.pure trivial

theorem bind (h : Adding step) (hnext : ∀ a, Adding (next a)) : Adding (step >>= next) :=
  Work.Always.bind h fun a _ => hnext a

theorem map (h : Adding step) (f : α → β) : Adding (step >>= fun a => Pure.pure (f a)) :=
  h.bind fun a => pure (f a)

theorem look {next : Store → Step β} (hnext : ∀ s, Adding (next s)) : Adding (get >>= next) :=
  Work.Always.look hnext

theorem write {f : Store → Store} (h : ∀ s, ReflTransGen Store.Adds s (f s)) :
    Adding (modify f) :=
  fun _ => .write fun t _ _ => ⟨trivial, h t, fun _ _ _ => trivial⟩

theorem report : ∀ fs : List Finding, Adding (Step.report fs)
  | [] => pure ()
  | f :: rest => (write fun _ => .single (.log f)).bind fun _ => report rest

theorem yield (made : α × List Finding) : Adding (Step.yield made) :=
  (report made.2).bind fun _ => pure made.1

/-- Classes are registered one after another. -/
theorem register {κ : Type} {add : Registry → κ → Registry}
    (hadd : ∀ (r : Registry) made, r.Adds (add r made)) (l : List κ) :
    Adding (Step.register fun r => l.foldl add r) := by
  refine write fun s => ?_
  suffices h : ∀ r, ReflTransGen Registry.Adds r (l.foldl add r) from
    ReflTransGen.lift (fun r => { s with registry := r }) (fun _ _ hr => .register hr) _ _
      (h s.registry)
  induction l with
  | nil => exact fun _ => .refl
  | cons made l ih => exact fun r => .head (hadd r made) (ih (add r made))

theorem memorised {table : Memo → KeyMap String α} {write : Memo → KeyMap String α → Memo}
    {name : String} {work : Step α} (hwork : Adding work)
    (hadd : ∀ (m : Memo) answer, m.Adds (write m ((table m).insert name answer))) :
    Adding (Step.memorised table write name work) := by
  refine look fun s => ?_
  cases (table s.memo).find? name with
  | some known => exact pure known
  | none =>
    refine hwork.bind fun answer => ?_
    exact (Adding.write fun _ => .single (.memorise (hadd _ answer))).map fun _ => answer

theorem mapM {step : α → Step β} {l : List α} (h : ∀ a ∈ l, Adding (step a)) :
    Adding (l.mapM step) :=
  Work.Always.mapM h

/-- Several workers who only add do so under every schedule. -/
theorem together {pool : List (Step α)} (schedule : List Nat) (h : ∀ w ∈ pool, Adding w) :
    Adding (Work.together schedule pool) :=
  Work.Always.together schedule h

theorem run (h : Adding step) (s : Store) : ReflTransGen Store.Adds s (step.run s).2 :=
  (Work.Always.run h trivial).2.2

end Adding

/-! ### What a catalog does -/

theorem adding_settle (name : String) (walk : Ascent) : Adding (settle name walk) := by
  rw [settle]
  cases walk.cut with
  | true => exact .pure walk
  | false =>
    exact (Adding.write fun _ => .single (.memorise (.superTypes name _))).map fun _ => walk

theorem adding_ascendFrom {path : List String} (name : String)
    {walk : (parent : String) → parent ∉ path → Step Ascent}
    (h : ∀ parent off, Adding (walk parent off)) :
    ∀ parents : List String, Adding (ascendFrom path name walk parents)
  | [] => .pure _
  | parent :: rest => by
    have ih := adding_ascendFrom name h rest
    rw [ascendFrom]
    split
    · exact (Adding.report _).bind fun _ => ih.map _
    · exact (h parent _).bind fun _ => ih.map _

/-- The walk logs and memorises at each type that it enters, with fewer types off the path each
time. -/
theorem adding_ascend {path : List String} {name : String} {off : name ∉ path} :
    Adding (c.ascend path name off) := by
  induction hn : c.offPath path using Nat.strongRecOn generalizing path name with
  | _ n ih =>
    subst hn
    rw [ascend]
    refine .look fun s => ?_
    cases s.memo.superTypes.find? name with
    | some known => exact .pure _
    | none =>
      dsimp only
      split
      · exact adding_settle name _
      · split
        next => exact (Adding.report _).bind fun _ => adding_settle name _
        next d hd =>
          refine (adding_ascendFrom name (fun parent off' => ?_) d.superTypes).bind
            fun walk => adding_settle name walk
          exact ih _ (offPath_append_lt hd off) rfl

theorem adding_superTypesOf (name : String) : Adding (c.superTypesOf name) :=
  adding_ascend.map fun walk : Ascent => walk.found

theorem adding_attributesOf (name : String) : Adding (c.attributesOf name) :=
  .memorised (.yield _) fun _ answer => .attributes name answer

theorem adding_relationshipsOf (name : String) : Adding (c.relationshipsOf name) :=
  .memorised (.yield _) fun _ answer => .relationships name answer

theorem adding_introducedBy (name : String) : Adding (c.introducedBy name) := by
  refine .memorised ?_ fun _ answer => .introduced name answer
  split
  · exact (adding_superTypesOf name).map _
  · exact .pure ∅

theorem adding_extraAttributesOf (name : String) : Adding (c.extraAttributesOf name) := by
  refine .memorised ?_ fun _ answer => .extraAttributes name answer
  exact (adding_attributesOf _).bind fun _ => (adding_attributesOf name).map _

theorem adding_extraRelationshipsOf (name : String) : Adding (c.extraRelationshipsOf name) := by
  refine .memorised ?_ fun _ answer => .extraRelationships name answer
  exact (adding_relationshipsOf _).bind fun _ => (adding_relationshipsOf name).map _

theorem adding_visible (name : String) : Adding (c.visible name) := by
  have hattributes : Adding (c.addedAttributesOf name) := by
    rw [addedAttributesOf]
    split
    · exact adding_attributesOf name
    · exact adding_extraAttributesOf name
  have hrelationships : Adding (c.addedRelationshipsOf name) := by
    rw [addedRelationshipsOf]
    split
    · exact adding_relationshipsOf name
    · exact adding_extraRelationshipsOf name
  refine hattributes.bind fun _ => ?_
  refine (adding_attributesOf name).bind fun _ => ?_
  refine (adding_introducedBy name).bind fun _ => ?_
  exact hrelationships.bind fun _ => (adding_relationshipsOf name).map _

theorem adding_entityClass? (name : String) : Adding (c.entityClass? name) := by
  rw [entityClass?]
  cases c.entities.find? name with
  | none => exact (Adding.report _).map fun _ => none
  | some d =>
    refine (adding_visible name).bind fun v => ?_
    exact .look fun s => (Adding.yield _).map some

theorem adding_entityClasses (roster : Roster) (workers : Nat) (schedule : List Nat) :
    Adding (c.entityClasses roster workers schedule) := by
  refine (Adding.together schedule fun w hw => ?_).bind fun made => ?_
  · obtain ⟨share, -, rfl⟩ := List.mem_map.1 hw
    exact .mapM fun name _ => adding_entityClass? name
  · exact (Adding.register (fun r made => .entity made) _).map _

theorem adding_ask (question : Question) : Adding (c.ask question) := by
  cases question with
  | superTypes name => exact (adding_superTypesOf name).map _
  | attributes name => exact (adding_attributesOf name).map _
  | relationships name => exact (adding_relationshipsOf name).map _
  | introduced name => exact (adding_introducedBy name).map _
  | extraAttributes name => exact (adding_extraAttributesOf name).map _
  | extraRelationships name => exact (adding_extraRelationshipsOf name).map _

theorem adding_act (action : Action) : Adding (c.act action) := by
  cases action with
  | report findings => exact .report findings
  | registerEnum made => exact .register (fun r made => .enum made) [made]
  | registerStruct made => exact .register (fun r made => .struct made) [made]
  | registerEntity made => exact .register (fun r made => .entity made) [made]
  | registerRelationship made => exact .register (fun r made => .relationship made) [made]
  | nameStructs => exact .register (fun r made => .struct made) _
  | nameEntities => exact ((Adding.register (fun r made => .entity made) _).map _).map _
  | makeEnum d => exact (Adding.yield _).map _
  | makeProperty ofStrings owner declaredBy a => exact .look fun _ => (Adding.yield _).map _
  | makeRelationshipProperty owner declaredBy a => exact .look fun _ => (Adding.yield _).map _
  | makeStruct d => exact .look fun _ => (Adding.yield _).map _
  | makeRelationship d => exact .look fun _ => (Adding.yield _).map _
  | makeEntity name => exact (adding_entityClass? name).map _
  | makeEntities roster workers schedule =>
    exact (adding_entityClasses roster workers schedule).map _

/-- A call does nothing but add to the store. -/
theorem adding_perform (call : Call) : Adding (c.perform call) := by
  cases call with
  | ask question => exact (adding_ask question).map some
  | act action => exact (adding_act action).map fun _ => none

/-- All that happens in a history is that things are added. -/
theorem adds_history (history : List Call) (s : Store) :
    ReflTransGen Store.Adds s ((history.mapM c.perform).run s).2 :=
  (Adding.mapM fun call _ => adding_perform call).run s

/-! ### What is kept -/

/-- What is memorised of what entities show stays memorised. -/
theorem remembers_of_adds {s t : Store} (h : ReflTransGen Store.Adds s t) (name : String) :
    (s.memo.attributes.contains name = true → t.memo.attributes.contains name = true) ∧
      (s.memo.relationships.contains name = true → t.memo.relationships.contains name = true) := by
  induction h with
  | refl => exact ⟨id, id⟩
  | tail _ hadds ih =>
    cases hadds with
    | log => exact ih
    | register => exact ih
    | memorise hm =>
      refine ⟨fun h => ?_, fun h => ?_⟩
      · cases hm <;> simp [ih.1 h]
      · cases hm <;> simp [ih.2 h]

/-- Every struct class that is known is filed under its source. -/
def Registry.FilesStructs (r : Registry) : Prop :=
  ∀ key made, r.structs.find? key = some made → made.source = key

theorem Registry.FilesStructs.adds {r r' : Registry} (h : r.FilesStructs) (hadds : r.Adds r') :
    r'.FilesStructs := by
  cases hadds with
  | struct made =>
    intro key known hknown
    rw [find?_addStruct] at hknown
    split at hknown
    next he =>
      obtain rfl := Option.some.inj hknown
      exact he.symm
    next => exact h key known hknown
  | enum | entity | relationship => exact h

theorem filesStructs_of_adds {s t : Store} (h : ReflTransGen Store.Adds s t)
    (hs : s.registry.FilesStructs) : t.registry.FilesStructs := by
  induction h with
  | refl => exact hs
  | tail _ hadds ih =>
    cases hadds with
    | log | memorise => exact ih
    | register hr => exact ih.adds hr

/-- Nothing that a catalog does files a struct class under another name than its source. -/
theorem filesStructs_history (history : List Call) (fs : List Finding) :
    ((history.mapM c.perform).run (Store.ofFindings fs)).2.registry.FilesStructs :=
  filesStructs_of_adds (adds_history history _) fun _ _ h => by cases h

end TypeCatalog
