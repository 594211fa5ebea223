import TypeCatalog.Proofs.Catalog
import TypeCatalog.Proofs.Finding.Listing
import TypeCatalog.Proofs.Generation.Keeping

/-!
A run does not show who made its classes. Once the groundwork is done, each generated entity has
one class, and what is found in making all classes is one set of findings, whoever makes them, in
whatever order, and however the accesses of several workers to the store come in turns. Main
statements: `run_in_order`, `run_at_once` and `workers_do_not_show`.
-/

namespace TypeCatalog
open Catalog

/-! ### Shares -/

theorem flatten_deal {α : Type} {size : Nat} (hsize : 0 < size) :
    ∀ (fuel : Nat) (l : List α), l.length ≤ fuel → (shares.deal size fuel l).flatten = l
  | 0, l, h => by
    rw [List.length_eq_zero_iff.1 (Nat.le_zero.1 h)]
    rfl
  | fuel + 1, [], _ => rfl
  | fuel + 1, a :: l, h => by
    have hrest : ((a :: l).drop size).length ≤ fuel := by
      simp only [List.length_drop, List.length_cons] at h ⊢
      omega
    rw [shares.deal, List.flatten_cons, flatten_deal hsize fuel _ hrest, List.take_append_drop]
    simp

/-- Whatever is shared out is in the shares, in order. -/
theorem flatten_shares {α : Type} (workers : Nat) (l : List α) :
    (shares workers l).flatten = l := by
  rw [shares]
  split
  next h => exact flatten_deal h l.length l (Nat.le_refl _)
  next => simp

/-! ### What is made and what is found -/

section
variable {c : Catalog} {start s : Store} {names : List String}

/-- What is found in making the classes of entities. -/
def Catalog.foundIn (c : Catalog) (r : Registry) (names : List String) : List Finding :=
  names.flatMap fun name => (c.classOf r name).2

/-- The registry is as it was, and what was found in making the classes of entities, and nothing
else, has come into the log. -/
structure Made (c : Catalog) (start : Store) (names : List String) (s : Store) : Prop where
  registry : s.registry = start.registry
  found : ∀ f, f ∈ s.log.entries ↔
    f ∈ start.log.entries ∨ f ∈ c.foundIn start.registry names

/-- The log does not show in which order classes were made. -/
theorem Made.listing {names' : List String} {s' : Store} (h : Made c start names s)
    (h' : Made c start names' s') (hperm : names'.Perm names) :
    s'.log.listing = s.log.listing :=
  Log.listing_congr fun f => by
    rw [h.found, h'.found, Catalog.foundIn, (hperm.flatMap_right _).mem_iff, Catalog.foundIn]

/-- On a sound store, what a step gives is made and what was found in it is in the log. -/
theorem made_of_gives {α : Type} {step : Step α} {answer : α} (hs : Sound c start)
    (h : ∀ allowed, Gives c (· = start.registry) allowed step
      (answer, c.foundIn start.registry names)) :
    (step.run start).1 = answer ∧ Made c start names (step.run start).2 := by
  obtain ⟨hanswer, ⟨-, hregistry, hallowed⟩, hkept, hfound⟩ :=
    (h fun f => f ∈ start.log.entries ∨ f ∈ c.foundIn start.registry names).run
      (fun f hf => .inr hf) ⟨hs, rfl, fun f hf => .inl hf⟩
  refine ⟨hanswer, hregistry, fun f => ⟨hallowed f, ?_⟩⟩
  rintro (hf | hf)
  · exact hkept hf
  · exact hfound hf

/-- Classes may be made one after another. -/
theorem run_in_order (hs : Sound c start) (names : List String) :
    ((names.mapM c.entityClass?).run start).1 =
        names.map (fun name => (c.classOf start.registry name).1) ∧
      Made c start names ((names.mapM c.entityClass?).run start).2 :=
  made_of_gives hs fun _ => .mapM fun name _ => gives_entityClass? name

/-- Classes may be made by several workers at once, each of whom has a share of the names. -/
theorem run_at_once (hs : Sound c start) (schedule : List Nat) (dealt : List (List String)) :
    let crew := Work.together schedule (dealt.map fun share => share.mapM c.entityClass?)
    (crew.run start).1 =
        dealt.map (·.map fun name => (c.classOf start.registry name).1) ∧
      Made c start dealt.flatten (crew.run start).2 := by
  refine made_of_gives hs fun _ => ?_
  rw [Catalog.foundIn, ← List.flatMap_id, List.flatMap_assoc]
  exact .together schedule fun share _ => .mapM fun name _ => gives_entityClass? name

/-! ### Generated entities -/

/-- The generated entities of a catalog, ascending. -/
def Catalog.included (c : Catalog) : List String := c.entities.keys.filter c.generates

/-- The class of an entity that has a definition. -/
def Catalog.madeClass (c : Catalog) (r : Registry) (name : String) : EntityClass :=
  (c.classOf r name).1.getD (.named c.config name)

theorem ascending_included (c : Catalog) :
    c.included.Pairwise fun a b => compare a b = .lt :=
  c.entities.ascending_keys.filter _

theorem defined_of_included {name : String} (h : name ∈ c.included) :
    ∃ d, c.entities.find? name = some d := by
  rw [Catalog.included, List.mem_filter, KeyMap.mem_keys_iff, KeyMap.contains] at h
  exact Option.isSome_iff_exists.1 h.1

theorem classOf_included {r : Registry} {name : String} (h : name ∈ c.included) :
    (c.classOf r name).1 = some (c.madeClass r name) := by
  obtain ⟨d, hd⟩ := defined_of_included h
  rw [Catalog.madeClass, Catalog.classOf, hd]
  rfl

/-- The class of an entity names it as its source, if the entity is filed under its own name. -/
theorem source_madeClass {r : Registry} {name : String} (h : name ∈ c.included)
    (hname : ∀ d, c.entities.find? name = some d → d.name = name) :
    (c.madeClass r name).source = name := by
  obtain ⟨d, hd⟩ := defined_of_included h
  rw [Catalog.madeClass, Catalog.classOf, hd]
  exact hname d hd

/-- All classes of generated entities, sorted by source, are the classes of the included names. -/
theorem sorted_classes {r : Registry}
    (hname : ∀ name d, c.entities.find? name = some d → d.name = name) :
    ((c.included.map fun name => (c.classOf r name).1).filterMap id).mergeSort
        (fun a b => (compare a.source b.source).isLE) = c.included.map (c.madeClass r) := by
  have hclasses : (c.included.map fun name => (c.classOf r name).1).filterMap id =
      c.included.map (c.madeClass r) := by
    rw [List.map_congr_left fun name => classOf_included, List.filterMap_map]
    exact congrFun List.filterMap_eq_map' _
  rw [hclasses]
  refine List.mergeSort_of_pairwise (List.pairwise_map.2 ?_)
  refine (ascending_included c).imp_of_mem fun {a b} ha hb hlt => ?_
  rw [source_madeClass ha (hname a), source_madeClass hb (hname b), hlt]
  rfl

/-- The step that makes all classes of entities gives one class for each included name, in the
order of the names, and files the classes, however many workers there are. -/
theorem run_entityClasses (hs : Sound c start)
    (hname : ∀ name d, c.entities.find? name = some d → d.name = name)
    (workers : Nat) (schedule : List Nat) :
    let classes := c.included.map (c.madeClass start.registry)
    let all := (c.entityClasses { names := c.entities.keys.toArray } workers schedule).run start
    all.1 = classes ∧ ∃ s, Made c start c.included s ∧
      all.2 = { s with registry := classes.foldl Registry.addEntity s.registry } := by
  intro classes all
  obtain ⟨hanswer, hmade⟩ := run_at_once hs schedule (shares workers c.included)
  rw [flatten_shares] at hmade
  have hsorted : (((Work.together schedule ((shares workers c.included).map fun share =>
      share.mapM c.entityClass?)).run start).1.flatten.filterMap id).mergeSort
        (fun a b => (compare a.source b.source).isLE) = classes := by
    rw [hanswer, ← List.map_flatten, flatten_shares]
    exact sorted_classes hname
  refine ⟨hsorted, _, hmade, ?_⟩
  rw [← hsorted]
  simp only [all, Catalog.entityClasses, Work.run_bind, Work.run_pure, Step.register,
    Work.run_modify]
  rfl

theorem run_classModels (options : RunOptions) :
    let ground := c.groundwork.run s
    let all := (c.entityClasses ground.1.roster options.workers options.schedule).run ground.2
    ((c.classModels options).run s).1 = c.models ground.1 all.1 all.2.log := by
  simp only [Catalog.classModels, Work.run_bind, Work.run_pure, Work.run_get]

end

/-- All classes of a run and all its findings are the same for all numbers of workers and all turns
that they take; the entities' classes are made in the order of their names, one for each that is
generated. From the groundwork on, the classes may as well be made one after another in any order:
each entity gets the same class, and the same is found. -/
theorem workers_do_not_show (config : Config) (snapshot : Snapshot) :
    let c := (Catalog.ofSnapshot config snapshot).1
    let ground := c.groundwork.run (Store.ofFindings (Catalog.ofSnapshot config snapshot).2)
    ∃ (made : String → EntityClass) (models : ClassModels),
      (∀ name ∈ c.included, (made name).source = name) ∧
      c.included.Pairwise (fun a b => compare a b = .lt) ∧
      (∀ options, ClassModels.ofSnapshot config options snapshot = models) ∧
      (∀ workers schedule,
        let all := (c.entityClasses ground.1.roster workers schedule).run ground.2
        all.1 = c.included.map made ∧ all.2.log.listing = models.findings) ∧
      ∀ order : List String, order.Perm c.included →
        let all := (order.mapM c.entityClass?).run ground.2
        all.1 = order.map (fun name => some (made name)) ∧
          all.2.log.listing = models.findings := by
  intro c ground
  have hname : ∀ name d, c.entities.find? name = some d → d.name = name :=
    fun name d => Catalog.name_of_find?
  obtain ⟨hroster, hsound⟩ : ground.1.roster = { names := c.entities.keys.toArray } ∧
      Sound c ground.2 := keeps_groundwork.run (.ofFindings _)
  let made := c.madeClass ground.2.registry
  let log := ((c.included.mapM c.entityClass?).run ground.2).2.log
  have hlog : Made c ground.2 c.included ((c.included.mapM c.entityClass?).run ground.2).2 :=
    (run_in_order hsound _).2
  have hworkers : ∀ workers schedule,
      let all := (c.entityClasses ground.1.roster workers schedule).run ground.2
      all.1 = c.included.map made ∧ all.2.log.listing = log.listing := by
    intro workers schedule
    rw [hroster]
    obtain ⟨hclasses, s, hs, hend⟩ := run_entityClasses hsound hname workers schedule
    have hsame : s.log.listing = log.listing := hlog.listing hs (.refl _)
    refine ⟨hclasses, ?_⟩
    rw [hend]
    exact hsame
  have hmodels : ∀ options, ClassModels.ofSnapshot config options snapshot =
      c.models ground.1 (c.included.map made) log := by
    intro options
    obtain ⟨hclasses, hfound⟩ := hworkers options.workers options.schedule
    have hrun : ClassModels.ofSnapshot config options snapshot = c.models ground.1
        ((c.entityClasses ground.1.roster options.workers options.schedule).run ground.2).1
        ((c.entityClasses ground.1.roster options.workers options.schedule).run ground.2).2.log :=
      run_classModels options
    rw [hrun, Catalog.models, Catalog.models, hclasses, hfound]
  refine ⟨made, _, fun name hn => source_madeClass hn (hname name), ascending_included c,
    hmodels, hworkers, fun order horder => ⟨?_, ?_⟩⟩
  · rw [(run_in_order hsound order).1]
    exact List.map_congr_left fun name hn => classOf_included (horder.mem_iff.1 hn)
  · exact hlog.listing (run_in_order hsound order).2 horder

end TypeCatalog
