import Mathlib.Data.List.Chain
import Mathlib.Data.List.Nodup
import Mathlib.Data.List.Perm.Subperm
import TypeCatalog.Proofs.Inheritance.DepthFirst

/-!
How deep the walks up the inheritance graph go. Both are told a second time, as nested walks that
give up when they are nested deeper than allowed; `ascendWithin` also gives up when something is
put on its path that does not belong there, and `gatherWithin` counts the types whose declarations
it gathers. A path names different defined types, so it has room for no more of them than there are
(`IsPath.length_le`), and as long as there is room for one more the walk that may give up is the one
that never does (`ascendWithin_eq`). Gathering follows the lineage (`gatherWithin_eq`). Main
statement: `walks_end`.
-/

namespace TypeCatalog
open Relation Catalog
open scoped List

variable {c : Catalog}

namespace Catalog

/-- What the walk to the super-types has on its path: different types, which are defined and other
than the root, and each of which lists the next one. -/
structure IsPath (c : Catalog) (path : List String) : Prop where
  nodup : path.Nodup
  defined : ∀ type ∈ path, type ≠ c.config.rootType ∧ c.entities.contains type = true
  listed : path.IsChain fun type next => next ∈ c.superTypes type

instance (c : Catalog) (path : List String) : Decidable (c.IsPath path) :=
  decidable_of_iff
    (path.Nodup ∧ (∀ type ∈ path, type ≠ c.config.rootType ∧ c.entities.contains type = true) ∧
      path.IsChain fun type next => next ∈ c.superTypes type)
    ⟨fun h => ⟨h.1, h.2.1, h.2.2⟩, fun h => ⟨h.nodup, h.defined, h.listed⟩⟩

/-- Walks up from super-types like `ascendFrom`, by walks that may give up. -/
def ascendFromWithin (path : List String) (name : String) (walk : String → OptionT Step Ascent) :
    List String → OptionT Step Ascent
  | [] => return { found := ∅, cut := false }
  | parent :: rest =>
    if parent ∈ path then do
      Step.report [cycle path name parent]
      let others ← ascendFromWithin path name walk rest
      return { others with cut := true }
    else do
      let first ← walk parent
      let others ← ascendFromWithin path name walk rest
      return {
        found := (KeySet.add first.found parent).union others.found
        cut := first.cut || others.cut }

/-- Walks up like `ascend`, but gives up if more walks would be nested than allowed, or if what is
put on the path does not make a path. -/
def ascendWithin (c : Catalog) : (depth : Nat) → (path : List String) → (name : String) →
    OptionT Step Ascent
  | 0, _, _ => failure
  | depth + 1, path, name => do
    match (← (get : Step Store)).memo.superTypes.find? name with
    | some known => return { found := known, cut := false }
    | none =>
      if name = c.config.rootType then
        settle name { found := KeySet.ofKeys [name], cut := false }
      else
        match c.entities.find? name with
        | none => do
          Step.report [undefinedSuperType name]
          settle name { found := ∅, cut := false }
        | some d =>
          let onward := path ++ [name]
          if c.IsPath onward then do
            let walk ← ascendFromWithin onward name (c.ascendWithin depth onward) d.superTypes
            settle name walk
          else failure

/-- The names of all super-types of an entity, unless the walk gives up. -/
def superTypesWithin (c : Catalog) (depth : Nat) (name : String) :
    OptionT Step (KeySet String) := do
  let walk ← c.ascendWithin depth [] name
  return walk.found

end Catalog

theorem Catalog.isPath_nil : c.IsPath [] := ⟨.nil, nofun, .nil⟩

/-- A path gets longer by a type that is not on it and that the last type on it lists. -/
theorem Catalog.IsPath.append {path : List String} {name : String} {d : EntityType}
    (h : c.IsPath path) (off : name ∉ path)
    (hlast : ∀ last ∈ path.getLast?, name ∈ c.superTypes last)
    (hr : name ≠ c.config.rootType) (hd : c.entities.find? name = some d) :
    c.IsPath (path ++ [name]) where
  nodup := by
    rw [← List.concat_eq_append]
    exact h.nodup.concat off
  defined type ht := by
    rcases List.mem_append.1 ht with ht | ht
    · exact h.defined type ht
    · rw [List.mem_singleton.1 ht, KeyMap.contains, hd]
      exact ⟨hr, rfl⟩
  listed := h.listed.append (.singleton name) (by simpa using hlast)

/-- A path has at most as many types as are defined. -/
theorem Catalog.IsPath.length_le {path : List String} (h : c.IsPath path) :
    path.length ≤ c.entities.size := by
  have hkeys : path ⊆ c.entities.keys := fun type ht =>
    KeyMap.mem_keys_iff.2 (h.defined type ht).2
  have hlen := (List.subperm_of_subset h.nodup hkeys).length_le
  rwa [KeyMap.keys, List.length_map] at hlen

theorem ascendFromWithin_eq {path : List String} (name : String)
    {within : String → OptionT Step Ascent}
    {walk : (parent : String) → parent ∉ path → Step Ascent} :
    ∀ {parents : List String},
      (∀ parent ∈ parents, ∀ off, within parent = liftM (walk parent off)) →
      ascendFromWithin path name within parents = liftM (ascendFrom path name walk parents)
  | [], _ => by
    rw [ascendFromWithin, ascendFrom, liftM_pure]
  | parent :: rest, h => by
    have ih := ascendFromWithin_eq name fun p hp => h p (List.mem_cons_of_mem parent hp)
    rw [ascendFromWithin, ascendFrom]
    by_cases on : parent ∈ path
    · simp only [on, if_true, dite_true, liftM_bind, liftM_pure, ih]
    · simp only [on, if_false, dite_false, liftM_bind, liftM_pure, ih,
        h parent List.mem_cons_self on]

/-- What a walk does with a name other than the root type. -/
theorem ascend_of_ne_root {path : List String} {name : String} {off : name ∉ path}
    (hr : name ≠ c.config.rootType) :
    c.ascend path name off = (do
      match (← (get : Step Store)).memo.superTypes.find? name with
      | some known => return { found := known, cut := false }
      | none =>
        match c.entities.find? name with
        | none => do
          Step.report [undefinedSuperType name]
          settle name { found := ∅, cut := false }
        | some d => do
          let onward := path ++ [name]
          settle name (← ascendFrom onward name (fun parent off => c.ascend onward parent off)
            d.superTypes)) := by
  rw [ascend]
  refine congrArg _ (funext fun s => ?_)
  cases s.memo.superTypes.find? name with
  | some known => rfl
  | none =>
    dsimp only
    rw [if_neg hr]
    split
    next hd => rw [hd]
    next d hd => rw [hd]

/-- The walk that may give up never does. -/
theorem ascendWithin_eq {depth : Nat} {path : List String} {name : String} {off : name ∉ path}
    (hpath : c.IsPath path) (hlast : ∀ last ∈ path.getLast?, name ∈ c.superTypes last)
    (hdepth : c.entities.size < depth + path.length) :
    c.ascendWithin depth path name = liftM (c.ascend path name off) := by
  induction depth generalizing path name with
  | zero =>
    have hlen := hpath.length_le
    omega
  | succ depth ih =>
    rw [ascendWithin]
    by_cases hr : name = c.config.rootType
    · rw [ascend, liftM_bind]
      refine congrArg _ (funext fun s => ?_)
      cases s.memo.superTypes.find? name with
      | some known => exact (liftM_pure _).symm
      | none =>
        dsimp only
        rw [if_pos hr, if_pos hr]
    · rw [ascend_of_ne_root hr, liftM_bind]
      refine congrArg _ (funext fun s => ?_)
      cases s.memo.superTypes.find? name with
      | some known => exact (liftM_pure _).symm
      | none =>
        dsimp only
        rw [if_neg hr]
        cases hd : c.entities.find? name with
        | none => exact (liftM_bind _ _).symm
        | some d =>
          have honward := hpath.append off hlast hr hd
          -- what `name` lists is walked to from a longer path, with one walk less
          have hwalks : ascendFromWithin (path ++ [name]) name
              (c.ascendWithin depth (path ++ [name])) d.superTypes =
                liftM (ascendFrom (path ++ [name]) name
                  (fun parent off => c.ascend (path ++ [name]) parent off) d.superTypes) := by
            refine ascendFromWithin_eq name fun parent hp off' => ih honward ?_ ?_
            · simp [superTypes, hd, hp]
            · rw [List.length_append, List.length_singleton]
              omega
          dsimp only
          rw [if_pos honward, hwalks, liftM_bind]

/-! ### Gathering what an entity shows -/

/-- How far gathering has come. -/
structure Gathering (α : Type) where
  closure : Closure α := ∅
  visited : List String := []
  /-- The types whose declarations were gathered, one entry for each time. -/
  taken : List String := []
  findings : List Finding := []

namespace Catalog
variable {α : Type}

/-- Gathers the declarations of a type; a name without a definition is found to be one. -/
def take (c : Catalog) (m : Member α) (passes : String → α → Bool) (target : String)
    (g : Gathering α) (type : String) : Gathering α :=
  match c.entities.find? type with
  | none => { g with
      visited := g.visited ++ [type]
      findings := g.findings ++ [undefinedAncestor target type] }
  | some _ =>
    let (closure, conflicts) := gather m target (c.passedOn m passes type) g.closure
    { closure
      visited := g.visited ++ [type]
      taken := g.taken ++ [type]
      findings := g.findings ++ conflicts }

/-- Gathers the declarations of a type and then, from each of its super-types on, what is above it,
but nothing from a type that was visited before. Gives up if more of this would be nested than
allowed. -/
def gatherWithin (c : Catalog) (m : Member α) (passes : String → α → Bool) (target : String) :
    (depth : Nat) → Gathering α → (type : String) → Option (Gathering α)
  | 0, _, _ => none
  | depth + 1, g, type =>
    if type ∈ g.visited then some g
    else (c.superTypes type).foldlM (c.gatherWithin m passes target depth)
      (c.take m passes target g type)

/-- Gathering for an entity comes to an end: it is nested no deeper than all types and one more
name, has what the entity shows and the findings about it, and has taken each type that can be
reached, and no type twice. -/
def GathersOnce (c : Catalog) (m : Member α) (passes : String → α → Bool) (target : String) :
    Prop :=
  ∃ g, c.gatherWithin m passes target (c.entities.size + 1) {} target = some g ∧
    g.closure = (c.closure m passes target).1 ∧
    g.findings ~ (c.closure m passes target).2 ∧
    g.taken.Nodup ∧
    ∀ type, type ∈ g.taken ↔
      c.entities.contains type = true ∧ ReflTransGen c.Extends target type

end Catalog

section
variable {α : Type} {m : Member α} {passes : String → α → Bool} {target : String}

@[simp] theorem visited_take (g : Gathering α) (type : String) :
    (c.take m passes target g type).visited = g.visited ++ [type] := by
  rw [Catalog.take]
  cases c.entities.find? type <;> rfl

theorem visited_foldl_take (g : Gathering α) (order : List String) :
    (order.foldl (c.take m passes target) g).visited = g.visited ++ order := by
  induction order generalizing g with
  | nil => simp
  | cons type rest ih => simp [ih]

theorem offPath_append_list_le (c : Catalog) (path more : List String) :
    c.offPath (path ++ more) ≤ c.offPath path := by
  induction more generalizing path with
  | nil => rw [List.append_nil]
  | cons name rest ih =>
    rw [List.append_cons]
    exact Nat.le_trans (ih (path ++ [name])) (offPath_append_le c path name)

/-- The nested walk takes the types in depth-first order, each once. -/
theorem gatherWithin_eq {seen names order : List String}
    (h : DepthFirst c.superTypes seen names order) {depth : Nat} (hdepth : c.offPath seen < depth)
    {g : Gathering α} (hg : g.visited = seen) :
    names.foldlM (c.gatherWithin m passes target depth) g =
      some (order.foldl (c.take m passes target) g) := by
  induction h generalizing depth g with
  | nil => rfl
  | @skip seen name rest order hs _ ih =>
    obtain ⟨depth, rfl⟩ : ∃ d, depth = d + 1 := ⟨depth - 1, by omega⟩
    have hname : c.gatherWithin m passes target (depth + 1) g name = some g := by
      rw [Catalog.gatherWithin, if_pos (hg ▸ hs)]
    rw [List.foldlM_cons, hname]
    exact ih hdepth hg
  | @enter seen name rest above others hs hup _ ihUp ih =>
    obtain ⟨depth, rfl⟩ : ∃ d, depth = d + 1 := ⟨depth - 1, by omega⟩
    have htaken : (c.take m passes target g name).visited = seen ++ [name] := by
      rw [visited_take, hg]
    have hname : c.gatherWithin m passes target (depth + 1) g name =
        some (above.foldl (c.take m passes target) (c.take m passes target g name)) := by
      rw [Catalog.gatherWithin, if_neg (hg ▸ hs)]
      cases hd : c.entities.find? name with
      | none =>
        -- nothing is above a name without a definition
        have hnil : c.superTypes name = [] := by rw [Catalog.superTypes, hd]; rfl
        rw [hnil] at hup ⊢
        cases hup
        rfl
      | some d =>
        have hless := offPath_append_lt hd hs
        exact ihUp (by omega) htaken
    rw [List.foldlM_cons, hname, List.cons_append, List.foldl_cons, List.foldl_append]
    refine ih (Nat.lt_of_le_of_lt (offPath_append_list_le c seen (name :: above)) hdepth) ?_
    rw [visited_foldl_take, htaken, List.append_assoc, List.singleton_append]

theorem gather_append (target : String) (l l' : List (Owned α)) (closure : Closure α) :
    gather m target (l ++ l') closure =
      ((gather m target l' (gather m target l closure).1).1,
       (gather m target l closure).2 ++ (gather m target l' (gather m target l closure).1).2) := by
  induction l generalizing closure with
  | nil => rfl
  | cons o rest ih =>
    rw [List.cons_append, gather, gather]
    cases closure.find? (m.name o.declaration) with
    | some kept => simp only [ih, List.cons_append]
    | none => exact ih _

/-- Types that are taken one after another. -/
structure Takes (c : Catalog) (m : Member α) (passes : String → α → Bool) (target : String)
    (g : Gathering α) (order : List String) (g' : Gathering α) : Prop where
  closure : g'.closure = (gather m target (order.flatMap (c.passedOn m passes)) g.closure).1
  taken : g'.taken = g.taken ++ order.filter c.entities.contains
  findings : g'.findings ~ g.findings ++
    ((gather m target (order.flatMap (c.passedOn m passes)) g.closure).2 ++
      (order.filter fun n => !c.entities.contains n).map (undefinedAncestor target))

/-- Types that are taken one after another are taken as a whole. -/
theorem takes_foldl (g : Gathering α) (order : List String) :
    Takes c m passes target g order (order.foldl (c.take m passes target) g) := by
  induction order generalizing g with
  | nil => exact ⟨rfl, (List.append_nil _).symm, by simp [gather]⟩
  | cons type rest ih =>
    obtain ⟨hclosure, htaken, hfindings⟩ := ih (c.take m passes target g type)
    rw [List.foldl_cons]
    cases hd : c.entities.find? type with
    | none =>
      have hcontains : c.entities.contains type = false := by rw [KeyMap.contains, hd]; rfl
      have hpassed : c.passedOn m passes type = [] := by rw [passedOn, hd]
      simp only [Catalog.take, hd] at hclosure htaken hfindings ⊢
      refine ⟨?_, ?_, ?_⟩
      · rw [List.flatMap_cons, hpassed]
        exact hclosure
      · rw [htaken, List.filter_cons_of_neg (by simp [hcontains])]
      · rw [List.flatMap_cons, hpassed, List.nil_append,
          List.filter_cons_of_pos (by simp [hcontains]), List.map_cons]
        refine hfindings.trans ?_
        rw [List.append_assoc, List.singleton_append]
        exact List.perm_middle.symm.append_left g.findings
    | some d =>
      have hcontains : c.entities.contains type = true := by rw [KeyMap.contains, hd]; rfl
      simp only [Catalog.take, hd] at hclosure htaken hfindings ⊢
      refine ⟨?_, ?_, ?_⟩
      · rw [List.flatMap_cons, gather_append]
        exact hclosure
      · rw [htaken, List.filter_cons_of_pos hcontains, List.append_assoc, List.singleton_append]
      · rw [List.flatMap_cons, gather_append, List.filter_cons_of_neg (by simp [hcontains])]
        simpa only [List.append_assoc] using hfindings

theorem offPath_nil (c : Catalog) : c.offPath [] = c.entities.size := by
  rw [offPath, List.filter_eq_self.2 fun n _ => decide_eq_true List.not_mem_nil, KeyMap.keys,
    List.length_map]
  rfl

/-- Gathering for an entity goes no deeper than all types and one more name, has what the entity
shows and the findings about it in the end, and takes each type that can be reached once. -/
theorem gathersOnce (c : Catalog) (m : Member α) (passes : String → α → Bool) (target : String) :
    c.GathersOnce m passes target := by
  have hwalk : c.gatherWithin m passes target (c.entities.size + 1) {} target =
      some ((c.lineage target).foldl (c.take m passes target) {}) := by
    have h : [target].foldlM (c.gatherWithin m passes target (c.entities.size + 1)) {} =
        some ((c.lineage target).foldl (c.take m passes target) {}) :=
      gatherWithin_eq (depthFirst_lineage target) (Nat.lt_succ_of_le (offPath_nil c).le) rfl
    simpa using h
  have htakes : Takes c m passes target {} (c.lineage target)
      ((c.lineage target).foldl (c.take m passes target) {}) := takes_foldl {} (c.lineage target)
  obtain ⟨hclosure, htaken, hfindings⟩ := htakes
  rw [List.nil_append] at htaken
  refine ⟨_, hwalk, hclosure, hfindings, ?_, fun type => ?_⟩
  · rw [htaken]
    exact (c.nodup_lineage target).filter _
  · rw [htaken, List.mem_filter, mem_lineage, and_comm]

end

/-- Every walk up the inheritance graph ends. The walk to the super-types, whatever is memorised
before it or in the course of it, nests no more walks than there are types and one more, and has
different types on its path, each of which lists the next one. Gathering attributes or
relationships ends as well and takes the declarations of each type once. -/
theorem walks_end (c : Catalog) (name : String) :
    (c.superTypesWithin (c.entities.size + 1) name).run = some <$> c.superTypesOf name ∧
    c.GathersOnce .attributes c.passesAttribute name ∧
    c.GathersOnce .relationships c.passesRelationship name := by
  refine ⟨?_, gathersOnce c _ _ name, gathersOnce c _ _ name⟩
  have hwalk : c.ascendWithin (c.entities.size + 1) [] name =
      liftM (c.ascend [] name List.not_mem_nil) :=
    ascendWithin_eq isPath_nil nofun (by simp)
  rw [superTypesWithin, superTypesOf, hwalk]
  simp

/-- With no more walks than types, there is none left for a name without a definition. -/
example :
    let c := (Catalog.ofSnapshot {} { entities := [
      { name := "Table", superTypes := ["Asset"] },
      { name := "Asset", superTypes := ["Missing"] }] }).1
    ((c.superTypesWithin c.entities.size "Table").run.run {}).1 = none ∧
      (((c.superTypesWithin (c.entities.size + 1) "Table").run.run {}).1.map (·.keys)) =
        some ["Asset", "Missing"] := by
  decide +kernel

end TypeCatalog
