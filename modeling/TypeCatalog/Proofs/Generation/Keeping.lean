import TypeCatalog.Generation
import TypeCatalog.Proofs.Class.Entity

/-!
Every step of a run keeps the store sound: the steps that make classes log findings and change the
registry, and the others ask questions about inheritance. Main statements: `keeps_groundwork` and
`keeps_entityClasses`.
-/

namespace TypeCatalog
variable {c : Catalog} {α β : Type}

/-- A step keeps the store sound and its answer has a property, whatever other workers do in
between who keep the store sound too. -/
def Keeps (c : Catalog) (step : Step α) (post : α → Prop) : Prop :=
  ∀ s, step.Ensures (c.discipline (fun _ => True) fun _ => True) s fun a _ => post a

namespace Keeps
variable {step : Step α} {next : α → Step β} {mid : α → Prop} {post : β → Prop}

theorem ofGives {made : α × List Finding}
    (h : Gives c (fun _ => True) (fun _ => True) step made) : Keeps c step (· = made.1) :=
  fun s => (h (fun _ _ => trivial) s).mono fun _ _ _ _ hgives => hgives.1

theorem mono {post post' : α → Prop} (h : Keeps c step post) (hpost : ∀ a, post a → post' a) :
    Keeps c step post' :=
  Work.Always.mono h hpost

/-- What the answer is does not matter. -/
theorem drop (h : Keeps c step mid) : Keeps c step fun _ => True := h.mono fun _ _ => trivial

theorem pure {a : α} (h : mid a) : Keeps c (Pure.pure a) mid := Work.Always.pure h

theorem bind (h : Keeps c step mid) (hnext : ∀ a, mid a → Keeps c (next a) post) :
    Keeps c (step >>= next) post :=
  Work.Always.bind h hnext

theorem seq (h : Keeps c step mid) (hnext : ∀ a, Keeps c (next a) post) :
    Keeps c (step >>= next) post :=
  h.bind fun a _ => hnext a

theorem report (fs : List Finding) : Keeps c (Step.report fs) fun _ => True :=
  (ofGives (.report fs)).drop

theorem yield (made : α × List Finding) : Keeps c (Step.yield made) fun _ => True :=
  (ofGives (.yield made)).drop

/-- The registry may be changed at will: no answer about inheritance depends on it. -/
theorem register (f : Registry → Registry) : Keeps c (Step.register f) fun _ => True :=
  fun _ => .write fun _ _ ⟨hsound, _, _⟩ =>
    ⟨⟨hsound.register _, trivial, fun _ _ => trivial⟩, List.suffix_refl _, fun _ _ _ => trivial⟩

theorem look {next : Store → Step β} (hnext : ∀ s, Keeps c (next s) post) :
    Keeps c (get >>= next) post :=
  Work.Always.look hnext

theorem mapM {step : α → Step β} {l : List α}
    (h : ∀ a ∈ l, Keeps c (step a) fun _ => True) : Keeps c (l.mapM step) fun _ => True :=
  Work.Always.mapM h

theorem together {pool : List (Step α)} (schedule : List Nat)
    (h : ∀ w ∈ pool, Keeps c w fun _ => True) :
    Keeps c (Work.together schedule pool) fun _ => True :=
  Work.Always.together schedule h

/-- A step that nobody interrupts answers as it would with others, and leaves a sound store. -/
theorem run {s : Store} (h : Keeps c step mid) (hs : Sound c s) :
    mid (step.run s).1 ∧ Sound c (step.run s).2 := by
  obtain ⟨hanswer, hold, -⟩ := Work.Always.run h ⟨hs, trivial, fun _ _ => trivial⟩
  exact ⟨hanswer, hold.1⟩

end Keeps

/-! ### Steps of a run -/

theorem keeps_enumClasses : Keeps c c.enumClasses fun _ => True := by
  refine .mapM fun d _ => ?_
  refine (Keeps.yield _).seq fun made => ?_
  exact (Keeps.register (·.addEnum made)).seq fun _ => .pure trivial

theorem keeps_nameStructs : Keeps c c.nameStructs fun _ => True := .register _

theorem keeps_nameEntities :
    Keeps c c.nameEntities (· = { names := c.entities.keys.toArray }) :=
  (Keeps.register _).seq fun _ => .pure rfl

theorem keeps_structClasses : Keeps c c.structClasses fun _ => True := by
  refine .mapM fun d _ => ?_
  refine .look fun s => ?_
  refine (Keeps.yield _).seq fun made => ?_
  exact (Keeps.register (·.addStruct made)).seq fun _ => .pure trivial

theorem keeps_relationshipClasses : Keeps c c.relationshipClasses fun _ => True := by
  refine .mapM fun d _ => ?_
  refine .look fun s => ?_
  refine (Keeps.yield _).seq fun made => ?_
  exact (Keeps.register (·.addRelationship made)).seq fun _ => .pure trivial

/-- The groundwork leaves a sound store, and all entities on the roster. -/
theorem keeps_groundwork :
    Keeps c c.groundwork fun made => made.roster = { names := c.entities.keys.toArray } := by
  refine keeps_enumClasses.seq fun enums => ?_
  refine keeps_nameStructs.seq fun _ => ?_
  refine keeps_nameEntities.bind fun roster hroster => ?_
  refine keeps_structClasses.seq fun structs => ?_
  exact keeps_relationshipClasses.seq fun relationships => .pure hroster

theorem keeps_entityClass? (name : String) : Keeps c (c.entityClass? name) fun _ => True := by
  rw [Catalog.entityClass?]
  cases c.entities.find? name with
  | none => exact (Keeps.report _).seq fun _ => .pure trivial
  | some d =>
    refine (Keeps.ofGives (gives_visible name)).seq fun visible => ?_
    refine .look fun s => ?_
    exact (Keeps.yield _).seq fun made => .pure trivial

/-- Workers who make the classes of entities keep the store sound, on any roster. -/
theorem keeps_entityClasses (roster : Roster) (workers : Nat) (schedule : List Nat) :
    Keeps c (c.entityClasses roster workers schedule) fun _ => True := by
  refine (Keeps.together schedule fun w hw => ?_).seq fun _ => ?_
  · obtain ⟨share, -, rfl⟩ := List.mem_map.1 hw
    exact .mapM fun name _ => keeps_entityClass? name
  · exact (Keeps.register _).seq fun _ => .pure trivial

end TypeCatalog
