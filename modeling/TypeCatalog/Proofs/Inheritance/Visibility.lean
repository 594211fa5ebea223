import TypeCatalog.Proofs.Inheritance.DepthFirst
import TypeCatalog.Proofs.Inheritance.History

/-!
What an entity shows: under each name the first declaration that is passed on, in depth-first order
from the entity up. Main statements: `shows_closure` for what is gathered, and `shows_answers` for
the answers that a catalog gives, whatever it was asked before.
-/

namespace TypeCatalog
open Relation

variable {α : Type} {c : Catalog} {m : Member α}

/-- All declarations of types, passed on or not, in the order of the types and as declared. -/
def Catalog.declarations (c : Catalog) (m : Member α) (types : List String) : List (Owned α) :=
  types.flatMap fun type =>
    (c.entities.find? type).elim [] fun d => (m.declared d).map (⟨type, ·⟩)

/-- A closure holds the names of those declarations of an entity and of all types above it that are
passed on, and under each of them the first such declaration. -/
structure Shows (c : Catalog) (m : Member α) (passes : String → α → Prop) (name : String)
    (closure : Closure α) : Prop where
  keys : ∀ key, closure.contains key = true ↔ ∃ type d a, ReflTransGen c.Extends name type ∧
    c.entities.find? type = some d ∧ a ∈ m.declared d ∧ passes type a ∧ m.name a = key
  ordered : ∃ order, DepthFirst c.superTypes [] [name] order
  first : ∀ order, DepthFirst c.superTypes [] [name] order → ∀ key o,
    closure.find? key = some o ↔
      (passes o.owner o.declaration ∧ m.name o.declaration = key) ∧
        ∃ before after, c.declarations m order = before ++ o :: after ∧
          ∀ p ∈ before, ¬ (passes p.owner p.declaration ∧ m.name p.declaration = key)

/-- Of several declarations under a name the first is gathered. -/
theorem find?_gather (target key : String) (l : List (Owned α)) (closure : Closure α) :
    (Catalog.gather m target l closure).1.find? key =
      (closure.find? key).or (l.find? fun o => m.name o.declaration = key) := by
  induction l generalizing closure with
  | nil => simp [Catalog.gather]
  | cons o rest ih =>
    rw [Catalog.gather]
    cases hk : closure.find? (m.name o.declaration) with
    | some kept =>
      simp only [ih]
      by_cases hn : m.name o.declaration = key
      · simp [← hn, hk]
      · simp [hn]
    | none =>
      simp only [ih, KeyMap.find?_insert]
      by_cases hn : m.name o.declaration = key
      · simp [← hn, hk]
      · simp [hn, Ne.symm hn]

theorem flatMap_passedOn (passes : String → α → Bool) (types : List String) :
    types.flatMap (c.passedOn m passes) =
      (c.declarations m types).filter fun o => passes o.owner o.declaration := by
  rw [Catalog.declarations, List.filter_flatMap]
  refine congrArg (types.flatMap ·) (funext fun type => ?_)
  rw [Catalog.passedOn]
  cases c.entities.find? type with
  | none => rfl
  | some d => simp [List.filter_map, Function.comp_def]

theorem mem_declarations {types : List String} {o : Owned α} :
    o ∈ c.declarations m types ↔
      o.owner ∈ types ∧ ∃ d, c.entities.find? o.owner = some d ∧ o.declaration ∈ m.declared d := by
  rw [Catalog.declarations, List.mem_flatMap]
  constructor
  · rintro ⟨type, ht, ho⟩
    cases hd : c.entities.find? type with
    | none => simp [hd] at ho
    | some d =>
      rw [hd, Option.elim_some, List.mem_map] at ho
      obtain ⟨a, ha, rfl⟩ := ho
      exact ⟨ht, d, hd, ha⟩
  · rintro ⟨ht, d, hd, ha⟩
    refine ⟨o.owner, ht, ?_⟩
    rw [hd, Option.elim_some, List.mem_map]
    exact ⟨o.declaration, ha, rfl⟩

/-- A closure holds the first declaration of each name that is passed on in the lineage. -/
theorem find?_closure (passes : String → α → Bool) (name key : String) :
    (c.closure m passes name).1.find? key =
      (c.declarations m (c.lineage name)).find? fun o =>
        passes o.owner o.declaration = true ∧ m.name o.declaration = key := by
  rw [Catalog.closure]
  simp [find?_gather, flatMap_passedOn, List.find?_filter]

/-- What is known of a declaration that stands in a closure under a name. -/
structure Gathered (c : Catalog) (m : Member α) (passes : String → α → Bool) (name key : String)
    (o : Owned α) : Prop where
  above : ReflTransGen c.Extends name o.owner
  declared : ∃ d, c.entities.find? o.owner = some d ∧ o.declaration ∈ m.declared d
  passed : passes o.owner o.declaration = true
  named : m.name o.declaration = key

/-- A declaration in a closure belongs to the entity or to a type above it, which passes it on. -/
theorem of_find?_closure {passes : String → α → Bool} {name key : String} {o : Owned α}
    (h : (c.closure m passes name).1.find? key = some o) : Gathered c m passes name key o := by
  rw [find?_closure] at h
  obtain ⟨hmet, hdeclared⟩ := mem_declarations.1 (List.mem_of_find?_eq_some h)
  have hfirst := List.find?_some h
  obtain ⟨hpassed, hnamed⟩ := of_decide_eq_true hfirst
  exact ⟨mem_lineage.1 hmet, hdeclared, hpassed, hnamed⟩

/-- What is gathered for an entity is what it shows. -/
theorem shows_closure (passes : String → α → Bool) (name : String) :
    Shows c m (fun type a => passes type a = true) name (c.closure m passes name).1 where
  keys key := by
    rw [KeyMap.contains, find?_closure, List.find?_isSome]
    constructor
    · rintro ⟨o, ho, hp⟩
      obtain ⟨ht, d, hd, ha⟩ := mem_declarations.1 ho
      obtain ⟨hpass, hname⟩ := of_decide_eq_true hp
      exact ⟨o.owner, d, o.declaration, mem_lineage.1 ht, hd, ha, hpass, hname⟩
    · rintro ⟨type, d, a, ht, hd, ha, hpass, hname⟩
      refine ⟨⟨type, a⟩, mem_declarations.2 ⟨mem_lineage.2 ht, d, hd, ha⟩, ?_⟩
      exact decide_eq_true ⟨hpass, hname⟩
  ordered := ⟨c.lineage name, depthFirst_lineage name⟩
  first order horder key o := by
    obtain rfl := horder.unique (depthFirst_lineage name)
    rw [find?_closure, List.find?_eq_some_iff_append]
    simp only [decide_eq_true_eq, Bool.not_eq_true', decide_eq_false_iff_not]

theorem Shows.congr {passes passes' : String → α → Prop} {name : String} {closure : Closure α}
    (h : Shows c m passes name closure) (hpass : ∀ type a, passes type a ↔ passes' type a) :
    Shows c m passes' name closure := by
  obtain rfl : passes = passes' := funext fun type => funext fun a => propext (hpass type a)
  exact h

/-- A catalog answers about the attributes and the relationships of an entity, whatever it was
asked before, what the entity shows: attributes are passed on unless the settings skip them, and by
the root type only the identifying one; relationships are passed on, by the root type only the
configured one. -/
theorem shows_answers (config : Config) (snapshot : Snapshot) (history : List Call)
    (name : String) :
    let c := (Catalog.ofSnapshot config snapshot).1
    let fresh := Store.ofFindings (Catalog.ofSnapshot config snapshot).2
    let s := ((history.mapM c.perform).run fresh).2
    Shows c .attributes
        (fun type a => config.skippedAttributes.contains a.name = false ∧
          (type = config.rootType → a.name = config.identityAttribute))
        name ((c.attributesOf name).run s).1 ∧
      Shows c .relationships
        (fun type a => type = config.rootType → a.name = config.rootRelationship)
        name ((c.relationshipsOf name).run s).1 := by
  intro c fresh s
  have hconfig : c.config = config := rfl
  have hs : Sound c s := (history_of_sound history (.ofFindings _)).2
  rw [(gives_attributesOf name).answer hs, (gives_relationshipsOf name).answer hs]
  constructor
  · refine (shows_closure c.passesAttribute name).congr fun type a => ?_
    simp [Catalog.passesAttribute, Config.skips, hconfig, Decidable.imp_iff_not_or]
  · refine (shows_closure c.passesRelationship name).congr fun type a => ?_
    simp [Catalog.passesRelationship, hconfig, Decidable.imp_iff_not_or]

end TypeCatalog
