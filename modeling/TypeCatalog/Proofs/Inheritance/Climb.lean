import Mathlib.Logic.Relation
import TypeCatalog.Inheritance.Ascent

/-!
The walk to the super-types of an entity without a memory, and what it meets. `climb` has the paths
of `ascend` but knows nothing beforehand, so that its outcome is a function of the graph. Main
statements: `contains_climb` (a walk meets what is reachable off its path), `grounded_of_climb` (a
walk that cuts nothing starts below no cycle) and `climb_eq_of_clear` (such a walk does not depend
on the path that led to it).
-/

namespace TypeCatalog.Catalog
open Relation

/-! ### The graph -/

/-- A type lists another one as a super-type. -/
def Extends (c : Catalog) (a b : String) : Prop := b ∈ c.superTypes a

/-- A type other than the root lists another one as a super-type. -/
def Rises (c : Catalog) (a b : String) : Prop := a ≠ c.config.rootType ∧ c.Extends a b

/-- No cycle is above a type. -/
def Grounded (c : Catalog) (name : String) : Prop := Acc (fun b a => c.Rises a b) name

variable {c : Catalog}

theorem rises_iff {a b : String} :
    c.Rises a b ↔ a ≠ c.config.rootType ∧ ∃ d, c.entities.find? a = some d ∧ b ∈ d.superTypes := by
  unfold Rises Extends superTypes
  cases c.entities.find? a <;> simp

/-- A type that no cycle is above is on none. -/
theorem Grounded.not_cyclic {name : String} (h : c.Grounded name) :
    ¬ TransGen c.Rises name name := by
  induction h with
  | intro a _ ih =>
    intro hcycle
    obtain ⟨b, hab, hba⟩ := TransGen.head'_iff.1 hcycle
    exact ih b hab (TransGen.tail' hba hab)

/-- What can be reached can be reached without coming back to the start. -/
theorem reachable_off_start {r : String → String → Prop} {a b : String} (h : ReflTransGen r a b) :
    b = a ∨ TransGen (fun x y => r x y ∧ y ≠ a) a b := by
  induction h with
  | refl => exact .inl rfl
  | @tail b b' _ hbb ih =>
    by_cases hb : b' = a
    · exact .inl hb
    · rcases ih with rfl | ih
      · exact .inr (.single ⟨hbb, hb⟩)
      · exact .inr (ih.tail ⟨hbb, hb⟩)

/-! ### The walk -/

/-- Walks up from super-types of the last type on a path, without a memory. -/
def climbFrom (path : List String) (name : String)
    (walk : (parent : String) → parent ∉ path → Ascent × List Finding) :
    List String → Ascent × List Finding
  | [] => ({ found := ∅, cut := false }, [])
  | parent :: rest =>
    let others := climbFrom path name walk rest
    if on : parent ∈ path then
      ({ others.1 with cut := true }, cycle path name parent :: others.2)
    else
      ({ found := (KeySet.add (walk parent on).1.found parent).union others.1.found
         cut := (walk parent on).1.cut || others.1.cut },
       (walk parent on).2 ++ others.2)

/-- Walks up from a type that is not on the path that led to it, without a memory. -/
def climb (c : Catalog) (path : List String) (name : String) (_off : name ∉ path) :
    Ascent × List Finding :=
  if name = c.config.rootType then ({ found := KeySet.ofKeys [name], cut := false }, [])
  else
    match _h : c.entities.find? name with
    | none => ({ found := ∅, cut := false }, [undefinedSuperType name])
    | some d =>
      climbFrom (path ++ [name]) name (fun parent off => c.climb (path ++ [name]) parent off)
        d.superTypes
termination_by c.offPath path
decreasing_by exact offPath_append_lt _h _off

/-- The names of all super-types of an entity, with what is found on the way to them. -/
def ancestry (c : Catalog) (name : String) : KeySet String × List Finding :=
  let walk := c.climb [] name List.not_mem_nil
  (walk.1.found, walk.2)

theorem climb_root {path : List String} {name : String} {off : name ∉ path}
    (hr : name = c.config.rootType) :
    c.climb path name off = ({ found := KeySet.ofKeys [name], cut := false }, []) := by
  rw [climb, if_pos hr]

theorem climb_undefined {path : List String} {name : String} {off : name ∉ path}
    (hr : name ≠ c.config.rootType) (hd : c.entities.find? name = none) :
    c.climb path name off = ({ found := ∅, cut := false }, [undefinedSuperType name]) := by
  rw [climb, if_neg hr]
  split
  · rfl
  · simp_all

theorem climb_defined {path : List String} {name : String} {off : name ∉ path} {d : EntityType}
    (hr : name ≠ c.config.rootType) (hd : c.entities.find? name = some d) :
    c.climb path name off = climbFrom (path ++ [name]) name
      (fun parent off => c.climb (path ++ [name]) parent off) d.superTypes := by
  rw [climb, if_neg hr]
  split
  · simp_all
  · simp_all

/-! ### What a walk meets -/

theorem contains_climbFrom {path : List String} {m : String} (name : String)
    {walk : (parent : String) → parent ∉ path → Ascent × List Finding} {above : String → Prop}
    (hwalk : ∀ parent off, (walk parent off).1.found.contains m = true ↔ above parent) :
    ∀ parents, (climbFrom path name walk parents).1.found.contains m = true ↔
      ∃ parent, parent ∈ parents ∧ parent ∉ path ∧ (m = parent ∨ above parent)
  | [] => by simp [climbFrom]
  | parent :: rest => by
    have ih := contains_climbFrom name hwalk rest
    rw [climbFrom]
    by_cases on : parent ∈ path
    · simp [on, ih]
    · simp [on, KeyMap.contains_union, KeySet.contains_add, hwalk, ih]

/-- A walk meets the names that are reachable from its start without going through the path or
back to the start; a walk from the root meets the root. -/
theorem contains_climb {path : List String} {name m : String} {off : name ∉ path} :
    (c.climb path name off).1.found.contains m = true ↔
      (name = c.config.rootType ∧ m = name) ∨
        TransGen (fun a b => c.Rises a b ∧ b ∉ path ++ [name]) name m := by
  induction path, name, off using climb.induct (c := c) with
  | case1 path off =>
    simp only [climb_root rfl, KeySet.contains_ofKeys, List.mem_singleton, true_and]
    refine ⟨.inl, fun h => h.resolve_right fun h => ?_⟩
    obtain ⟨_, hab, _⟩ := TransGen.head'_iff.1 h
    exact hab.1.1 rfl
  | case2 path name off hr hd =>
    simp only [climb_undefined hr hd, KeyMap.contains_empty, hr, false_and, false_or]
    refine ⟨nofun, fun h => ?_⟩
    obtain ⟨_, hab, _⟩ := TransGen.head'_iff.1 h
    obtain ⟨-, d, hd', -⟩ := rises_iff.1 hab.1
    simp [hd] at hd'
  | case3 path name off hr d hd ih =>
    rw [climb_defined hr hd, contains_climbFrom name ih]
    simp only [hr, false_and, false_or]
    constructor
    · rintro ⟨parent, hp, hoff, hm⟩
      have hstep : c.Rises name parent ∧ parent ∉ path ++ [name] :=
        ⟨rises_iff.2 ⟨hr, d, hd, hp⟩, hoff⟩
      rcases hm with rfl | ⟨-, rfl⟩ | hm
      · exact .single hstep
      · exact .single hstep
      · refine .head hstep (TransGen.mono (fun a b hab => ⟨hab.1, fun hb => hab.2 ?_⟩) _ _ hm)
        exact List.mem_append_left _ hb
    · intro h
      obtain ⟨parent, hstep, hm⟩ := TransGen.head'_iff.1 h
      obtain ⟨-, d', hd', hp⟩ := rises_iff.1 hstep.1
      obtain rfl : d = d' := Option.some.inj (hd.symm.trans hd')
      refine ⟨parent, hp, hstep.2, ?_⟩
      rcases reachable_off_start hm with rfl | hm
      · exact .inl rfl
      · refine .inr (.inr (TransGen.mono (fun a b hab => ⟨hab.1.1, fun hb => ?_⟩) _ _ hm))
        rcases List.mem_append.1 hb with hb | hb
        · exact hab.1.2 hb
        · exact hab.2 (List.mem_singleton.1 hb)

/-- The super-types of a type are the names other than itself that are reachable from it; the root
is its own. -/
theorem contains_ancestry {name m : String} :
    (c.ancestry name).1.contains m = true ↔
      (name = c.config.rootType ∧ m = name) ∨ (m ≠ name ∧ TransGen c.Rises name m) := by
  rw [ancestry, contains_climb, List.nil_append]
  refine or_congr_right ⟨fun h => ?_, fun ⟨hne, h⟩ => ?_⟩
  · obtain ⟨_, -, hlast⟩ := TransGen.tail'_iff.1 h
    exact ⟨fun he => hlast.2 (List.mem_singleton.2 he),
      TransGen.mono (fun a b hab => hab.1) _ _ h⟩
  · rcases reachable_off_start h.to_reflTransGen with he | h
    · exact absurd he hne
    · refine TransGen.mono (fun a b hab => ⟨hab.1, fun hb => ?_⟩) _ _ h
      exact hab.2 (List.mem_singleton.1 hb)

/-! ### Walks that cut nothing -/

theorem cut_climbFrom {path : List String} {name : String}
    {walk : (parent : String) → parent ∉ path → Ascent × List Finding} :
    ∀ {parents}, (climbFrom path name walk parents).1.cut = false →
      ∀ parent ∈ parents, ∃ off, (walk parent off).1.cut = false
  | parent :: rest, h, p, hp => by
    rw [climbFrom] at h
    by_cases on : parent ∈ path
    · simp [on] at h
    · simp only [on, dite_false, Bool.or_eq_false_iff] at h
      rcases List.mem_cons.1 hp with rfl | hp
      · exact ⟨on, h.1⟩
      · exact cut_climbFrom h.2 p hp

/-- No cycle is above a type if a walk from it cuts nothing. -/
theorem grounded_of_climb {path : List String} {name : String} {off : name ∉ path}
    (h : (c.climb path name off).1.cut = false) : c.Grounded name := by
  induction path, name, off using climb.induct (c := c) with
  | case1 path off => exact .intro _ fun b hb => absurd rfl hb.1
  | case2 path name off hr hd =>
    refine .intro _ fun b hb => ?_
    obtain ⟨-, d, hd', -⟩ := rises_iff.1 hb
    simp [hd] at hd'
  | case3 path name off hr d hd ih =>
    rw [climb_defined hr hd] at h
    refine .intro _ fun parent hb => ?_
    obtain ⟨-, d', hd', hp⟩ := rises_iff.1 hb
    obtain rfl : d = d' := Option.some.inj (hd.symm.trans hd')
    obtain ⟨hoff, hcut⟩ := cut_climbFrom h parent hp
    exact ih parent hoff hcut

/-- A path leads up to a type: each type on it is below the type. -/
def LeadsTo (c : Catalog) (path : List String) (name : String) : Prop :=
  ∀ p ∈ path, TransGen c.Rises p name

theorem leadsTo_nil (name : String) : c.LeadsTo [] name := fun _ hp => absurd hp List.not_mem_nil

theorem LeadsTo.append {path : List String} {name parent : String} (h : c.LeadsTo path name)
    (hstep : c.Rises name parent) : c.LeadsTo (path ++ [name]) parent := by
  intro p hp
  rcases List.mem_append.1 hp with hp | hp
  · exact (h p hp).tail hstep
  · exact List.mem_singleton.1 hp ▸ .single hstep

/-- Nothing on a path can be reached from a type. -/
def Clear (c : Catalog) (path : List String) (name : String) : Prop :=
  ∀ p ∈ path, ¬ ReflTransGen c.Rises name p

/-- A path to a type that no cycle is above is clear. -/
theorem LeadsTo.clear {path : List String} {name : String} (h : c.LeadsTo path name)
    (hg : c.Grounded name) : c.Clear path name :=
  fun p hp hreach => hg.not_cyclic (TransGen.trans_right hreach (h p hp))

theorem Clear.off {path : List String} {name : String} (h : c.Clear path name) : name ∉ path :=
  fun hm => h name hm .refl

/-- A step up from a type that no cycle is above keeps the path clear. -/
theorem Clear.append {path : List String} {name parent : String} (h : c.Clear path name)
    (hg : c.Grounded name) (hstep : c.Rises name parent) : c.Clear (path ++ [name]) parent := by
  intro p hp hreach
  rcases List.mem_append.1 hp with hp | hp
  · exact h p hp (.head hstep hreach)
  · obtain rfl := List.mem_singleton.1 hp
    exact hg.not_cyclic (.head' hstep hreach)

theorem climbFrom_congr {path path' : List String} (name : String)
    {walk : (parent : String) → parent ∉ path → Ascent × List Finding}
    {walk' : (parent : String) → parent ∉ path' → Ascent × List Finding} :
    ∀ {parents}, (∀ parent ∈ parents, ∃ off off',
        walk parent off = walk' parent off' ∧ (walk parent off).1.cut = false) →
      climbFrom path name walk parents = climbFrom path' name walk' parents ∧
        (climbFrom path name walk parents).1.cut = false
  | [], _ => ⟨rfl, rfl⟩
  | parent :: rest, h => by
    obtain ⟨off, off', heq, hcut⟩ := h parent List.mem_cons_self
    obtain ⟨ihEq, ihCut⟩ := climbFrom_congr name
      fun p hp => h p (List.mem_cons_of_mem _ hp)
    simp only [climbFrom, off, off', dite_false, heq, ihEq, true_and]
    simp [← heq, hcut, ← ihEq, ihCut]

/-- A walk from a type that no cycle is above does not depend on a clear path that led to it, and
cuts nothing. -/
theorem climb_eq_of_clear {name : String} (hg : c.Grounded name) {path path' : List String}
    (h : c.Clear path name) (h' : c.Clear path' name) :
    c.climb path name h.off = c.climb path' name h'.off ∧
      (c.climb path name h.off).1.cut = false := by
  induction hg generalizing path path' with
  | intro name hacc ih =>
    by_cases hr : name = c.config.rootType
    · simp [climb_root hr]
    · cases hd : c.entities.find? name with
      | none => simp [climb_undefined hr hd]
      | some d =>
        simp only [climb_defined hr hd]
        refine climbFrom_congr name fun parent hp => ?_
        have hstep : c.Rises name parent := rises_iff.2 ⟨hr, d, hd, hp⟩
        have hclear := h.append (.intro name hacc) hstep
        have hclear' := h'.append (.intro name hacc) hstep
        exact ⟨hclear.off, hclear'.off, ih parent hstep hclear hclear'⟩

/-- A walk from a type that no cycle is above gives the super-types of the type. -/
theorem climb_eq_ancestry {path : List String} {name : String} {off : name ∉ path}
    (hg : c.Grounded name) (hpath : c.LeadsTo path name) :
    c.climb path name off =
      ({ found := (c.ancestry name).1, cut := false }, (c.ancestry name).2) := by
  have hnil := (leadsTo_nil name).clear hg
  have hclear := hpath.clear hg
  rw [(climb_eq_of_clear hg hclear hnil).1, ancestry, ← (climb_eq_of_clear hg hnil hnil).2]

end TypeCatalog.Catalog
