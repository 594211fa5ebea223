import Mathlib.Data.List.Basic
import TypeCatalog.Proofs.Inheritance.Answers
import TypeCatalog.Proofs.Inheritance.DepthFirst

/-!
What an entity inherits depends only on what is above it. Two catalogs that define a type and all
types above it alike (`AgreeAbove`) give it the same lineage, the same closures and the same
super-types, and find the same on the way, whatever else they define. Main statements:
`lineage_congr`, `closure_congr`, `ancestry_congr` and `introduced_congr`.
-/

namespace TypeCatalog
open Relation Catalog

/-- Two catalogs have the same definitions of a type and of everything above it. -/
def AgreeAbove (c c' : Catalog) (name : String) : Prop :=
  ∀ type, ReflTransGen c.Extends name type → c'.entities.find? type = c.entities.find? type

variable {c c' : Catalog} {name : String}

namespace AgreeAbove

theorem of_entities (h : c'.entities = c.entities) (name : String) : AgreeAbove c c' name :=
  fun type _ => by rw [h]

theorem superTypes (h : AgreeAbove c c' name) : c'.superTypes name = c.superTypes name := by
  rw [Catalog.superTypes, Catalog.superTypes, h name .refl]

theorem contains (h : AgreeAbove c c' name) {type : String}
    (hreach : ReflTransGen c.Extends name type) :
    c'.entities.contains type = c.entities.contains type := by
  rw [KeyMap.contains, KeyMap.contains, h type hreach]

/-- What is above a super-type is above the type. -/
theorem above (h : AgreeAbove c c' name) {type : String}
    (hreach : ReflTransGen c.Extends name type) : AgreeAbove c c' type :=
  fun other hother => h other (hreach.trans hother)

end AgreeAbove

/-! ### Lineages and closures -/

/-- A depth-first walk looks only at the super-types of the names that it enters. -/
theorem DepthFirst.congr {up up' : String → List String} {seen names order : List String}
    (h : DepthFirst up seen names order) (hup : ∀ n ∈ order, up' n = up n) :
    DepthFirst up' seen names order := by
  induction h with
  | nil seen => exact .nil seen
  | skip hs _ ih => exact .skip hs (ih hup)
  | enter hs _ _ ihUp ih =>
    have hname := hup _ (List.mem_append_left _ List.mem_cons_self)
    refine .enter hs ?_ (ih fun n hn => hup n (List.mem_append_right _ hn))
    rw [hname]
    exact ihUp fun n hn => hup n (List.mem_append_left _ (List.mem_cons_of_mem _ hn))

theorem lineage_congr (h : AgreeAbove c c' name) : c'.lineage name = c.lineage name := by
  refine (depthFirst_lineage name).unique ((depthFirst_lineage name).congr fun n hn => ?_)
  exact (h.above (mem_lineage.1 hn)).superTypes

/-- What an entity shows, and what is found in gathering it, depends on the definitions above it and
on what these pass on. -/
theorem closure_congr {α : Type} (m : Member α) {passes passes' : String → α → Bool}
    (h : AgreeAbove c c' name) (hpasses : ∀ type a, passes' type a = passes type a) :
    c'.closure m passes' name = c.closure m passes name := by
  obtain rfl : passes' = passes := funext fun type => funext fun a => hpasses type a
  have hpassed : (c.lineage name).flatMap (c'.passedOn m passes') =
      (c.lineage name).flatMap (c.passedOn m passes') := by
    refine List.flatMap_congr fun type ht => ?_
    rw [passedOn, passedOn, h type (mem_lineage.1 ht)]
  have hundefined : (c.lineage name).filter (fun n => !c'.entities.contains n) =
      (c.lineage name).filter fun n => !c.entities.contains n := by
    refine List.filter_congr fun type ht => ?_
    rw [h.contains (mem_lineage.1 ht)]
  rw [Catalog.closure, Catalog.closure, lineage_congr h, hpassed, hundefined]

/-! ### Super-types -/

theorem climbFrom_eq {path : List String} (name : String)
    {walk walk' : (parent : String) → parent ∉ path → Ascent × List Finding} :
    ∀ {parents : List String}, (∀ parent ∈ parents, ∀ off, walk' parent off = walk parent off) →
      climbFrom path name walk' parents = climbFrom path name walk parents
  | [], _ => rfl
  | parent :: rest, h => by
    rw [climbFrom, climbFrom, climbFrom_eq name fun p hp => h p (List.mem_cons_of_mem parent hp)]
    split
    next => rfl
    next off => rw [h parent List.mem_cons_self off]

/-- A walk looks at no more than what is above its start, whatever the path that led to it. -/
theorem climb_congr (hroot : c'.config.rootType = c.config.rootType) {path : List String}
    {off : name ∉ path} (h : AgreeAbove c c' name) :
    c'.climb path name off = c.climb path name off := by
  induction path, name, off using climb.induct (c := c) with
  | case1 path off => rw [climb_root rfl, climb_root hroot.symm]
  | case2 path name off hr hd =>
    rw [climb_undefined hr hd, climb_undefined (hroot ▸ hr) ((h name .refl).trans hd)]
  | case3 path name off hr d hd ih =>
    rw [climb_defined hr hd, climb_defined (hroot ▸ hr) ((h name .refl).trans hd)]
    refine climbFrom_eq name fun parent hp off' => ih parent off' (h.above (.single ?_))
    exact (rises_iff.2 ⟨hr, d, hd, hp⟩).2

theorem ancestry_congr (hroot : c'.config.rootType = c.config.rootType)
    (h : AgreeAbove c c' name) : c'.ancestry name = c.ancestry name := by
  rw [ancestry, ancestry, climb_congr hroot h]

/-- Every super-type of a type can be reached from it. -/
theorem reachable_of_ancestry {type : String}
    (h : (c.ancestry name).1.contains type = true) : ReflTransGen c.Extends name type := by
  rcases contains_ancestry.1 h with ⟨-, rfl⟩ | ⟨-, h⟩
  · exact .refl
  · exact (TransGen.mono (fun _ _ hstep => hstep.2) _ _ h).to_reflTransGen

theorem relationshipNames_congr (h : AgreeAbove c c' name) {type : String}
    (hreach : ReflTransGen c.Extends name type) :
    c'.relationshipNames type = c.relationshipNames type := by
  rw [relationshipNames, relationshipNames, h type hreach]

/-- Which relationships an entity introduces depends on the definitions above it. -/
theorem introduced_congr (hroot : c'.config.rootType = c.config.rootType)
    (h : AgreeAbove c c' name) : c'.introduced name = c.introduced name := by
  have hinherited : ((c.ancestry name).1.keys.filter (· ≠ name)).flatMap c'.relationshipNames =
      ((c.ancestry name).1.keys.filter (· ≠ name)).flatMap c.relationshipNames := by
    refine List.flatMap_congr fun type ht => relationshipNames_congr h ?_
    exact reachable_of_ancestry (KeyMap.mem_keys_iff.1 (List.mem_filter.1 ht).1)
  rw [introduced, introduced, h.contains .refl, ancestry_congr hroot h, namesIntroduced,
    namesIntroduced, hinherited, relationshipNames_congr h .refl]

end TypeCatalog
