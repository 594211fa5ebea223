import TypeCatalog.Proofs.Generation.Keeping

/-!
What was asked of a catalog before does not show. A history is any sequence of calls on one store:
questions about inheritance, classes that are registered, classes and properties that are made.
Main statement: `answers_in_history`, every question is answered as it would be at first.
-/

namespace TypeCatalog
open Catalog

/-- A question about inheritance, with the name of the entity that it is about. -/
inductive Question
  | superTypes (name : String)
  | attributes (name : String)
  | relationships (name : String)
  | introduced (name : String)
  | extraAttributes (name : String)
  | extraRelationships (name : String)
  deriving DecidableEq, Repr

/-- The answer to a question about inheritance. -/
inductive Answer
  | names (names : KeySet String)
  | attributes (closure : Closure Attribute)
  | relationships (closure : Closure RelationshipAttribute)
  deriving DecidableEq, Repr

/-- Something that is done with a store, and that is no question about inheritance. -/
inductive Action
  | report (findings : List Finding)
  | registerEnum (made : EnumClass)
  | registerStruct (made : StructClass)
  | registerEntity (made : EntityClass)
  | registerRelationship (made : RelationshipClass)
  | nameStructs
  | nameEntities
  | makeEnum (d : EnumType)
  | makeProperty (ofStrings : IndexKind) (owner declaredBy : String) (a : Attribute)
  | makeRelationshipProperty (owner declaredBy : String) (a : RelationshipAttribute)
  | makeStruct (d : StructType)
  | makeRelationship (d : RelationshipType)
  | makeEntity (name : String)
  | makeEntities (roster : Roster) (workers : Nat) (schedule : List Nat)
  deriving DecidableEq, Repr

/-- A call on a store. -/
inductive Call
  | ask (question : Question)
  | act (action : Action)
  deriving DecidableEq, Repr

namespace Catalog

/-- Asks a question. -/
def ask (c : Catalog) : Question → Step Answer
  | .superTypes name => return .names (← c.superTypesOf name)
  | .attributes name => return .attributes (← c.attributesOf name)
  | .relationships name => return .relationships (← c.relationshipsOf name)
  | .introduced name => return .names (← c.introducedBy name)
  | .extraAttributes name => return .attributes (← c.extraAttributesOf name)
  | .extraRelationships name => return .relationships (← c.extraRelationshipsOf name)

/-- Does what a caller wants done. -/
def act (c : Catalog) : Action → Step Unit
  | .report findings => Step.report findings
  | .registerEnum made => Step.register (·.addEnum made)
  | .registerStruct made => Step.register (·.addStruct made)
  | .registerEntity made => Step.register (·.addEntity made)
  | .registerRelationship made => Step.register (·.addRelationship made)
  | .nameStructs => c.nameStructs
  | .nameEntities => do let _ ← c.nameEntities
  | .makeEnum d => do let _ ← Step.yield (EnumClass.ofType c.config d)
  | .makeProperty ofStrings owner declaredBy a => do
    let _ ← Step.yield (Property.ofAttribute c.config (← get).registry ofStrings owner declaredBy a)
  | .makeRelationshipProperty owner declaredBy a => do
    let _ ← Step.yield (Property.ofRelationship c.config (← get).registry owner declaredBy a)
  | .makeStruct d => do let _ ← Step.yield (StructClass.ofType c.config (← get).registry d)
  | .makeRelationship d => do
    let _ ← Step.yield (RelationshipClass.ofType c.config (← get).registry d)
  | .makeEntity name => do let _ ← c.entityClass? name
  | .makeEntities roster workers schedule => do
    let _ ← c.entityClasses roster workers schedule

/-- Makes a call; a question gives an answer. -/
def perform (c : Catalog) : Call → Step (Option Answer)
  | .ask question => return some (← c.ask question)
  | .act action => do
    c.act action
    return none

/-- The answer to a question by the definitions alone. -/
def answerTo (c : Catalog) : Question → Answer
  | .superTypes name => .names (c.ancestry name).1
  | .attributes name => .attributes (c.attributeClosure name).1
  | .relationships name => .relationships (c.relationshipClosure name).1
  | .introduced name => .names (c.introduced name).1
  | .extraAttributes name => .attributes (c.extraAttributes name).1
  | .extraRelationships name => .relationships (c.extraRelationships name).1

/-- What a call gives by the definitions alone. -/
def outcome (c : Catalog) : Call → Option Answer
  | .ask question => some (c.answerTo question)
  | .act _ => none

end Catalog

variable {c : Catalog}

theorem keeps_ask (question : Question) : Keeps c (c.ask question) (· = c.answerTo question) := by
  cases question with
  | superTypes name => exact .ofGives ((gives_superTypesOf name).map _)
  | attributes name => exact .ofGives ((gives_attributesOf name).map _)
  | relationships name => exact .ofGives ((gives_relationshipsOf name).map _)
  | introduced name => exact .ofGives ((gives_introducedBy name).map _)
  | extraAttributes name => exact .ofGives ((gives_extraAttributesOf name).map _)
  | extraRelationships name => exact .ofGives ((gives_extraRelationshipsOf name).map _)

theorem keeps_act (action : Action) : Keeps c (c.act action) fun _ => True := by
  cases action with
  | report findings => exact .report findings
  | registerEnum made => exact .register (·.addEnum made)
  | registerStruct made => exact .register (·.addStruct made)
  | registerEntity made => exact .register (·.addEntity made)
  | registerRelationship made => exact .register (·.addRelationship made)
  | nameStructs => exact keeps_nameStructs
  | nameEntities => exact keeps_nameEntities.seq fun _ => .pure trivial
  | makeEnum d => exact (Keeps.yield _).seq fun _ => .pure trivial
  | makeProperty ofStrings owner declaredBy a =>
    exact .look fun _ => (Keeps.yield _).seq fun _ => .pure trivial
  | makeRelationshipProperty owner declaredBy a =>
    exact .look fun _ => (Keeps.yield _).seq fun _ => .pure trivial
  | makeStruct d => exact .look fun _ => (Keeps.yield _).seq fun _ => .pure trivial
  | makeRelationship d => exact .look fun _ => (Keeps.yield _).seq fun _ => .pure trivial
  | makeEntity name => exact (keeps_entityClass? name).seq fun _ => .pure trivial
  | makeEntities roster workers schedule =>
    exact (keeps_entityClasses roster workers schedule).seq fun _ => .pure trivial

/-- A call keeps the store sound and gives what the definitions give. -/
theorem keeps_perform (call : Call) : Keeps c (c.perform call) (· = c.outcome call) := by
  cases call with
  | ask question =>
    exact (keeps_ask question).bind fun a ha => .pure (congrArg some ha)
  | act action => exact (keeps_act action).seq fun _ => .pure rfl

/-- From a sound store on, all calls of a history give what the definitions give. -/
theorem history_of_sound (history : List Call) {s : Store} (hs : Sound c s) :
    ((history.mapM c.perform).run s).1 = history.map c.outcome ∧
      Sound c ((history.mapM c.perform).run s).2 := by
  induction history generalizing s with
  | nil => exact ⟨rfl, hs⟩
  | cons call rest ih =>
    obtain ⟨hcall, hnext⟩ := (keeps_perform call).run hs
    obtain ⟨hrest, hend⟩ := ih hnext
    simp only [List.mapM_cons, Work.run_bind, Work.run_pure, List.map_cons]
    exact ⟨congrArg₂ List.cons hcall hrest, hend⟩

/-- Each question in a history is answered as if it were the first call on the catalog of the
snapshot. -/
theorem answers_in_history (config : Config) (snapshot : Snapshot) (history : List Call) :
    let c := (Catalog.ofSnapshot config snapshot).1
    let fresh := Store.ofFindings (Catalog.ofSnapshot config snapshot).2
    ((history.mapM c.perform).run fresh).1 =
      history.map fun call => ((c.perform call).run fresh).1 := by
  intro c fresh
  rw [(history_of_sound history (.ofFindings _)).1]
  refine List.map_congr_left fun call _ => ?_
  exact ((keeps_perform call).run (.ofFindings _)).1.symm

end TypeCatalog
