import TypeCatalog.Proofs.Finding.Listing
import TypeCatalog.Proofs.Inheritance.Answers

/-!
Cycles are found whenever someone walks into them. A walk meets a cycle exactly if one is above its
start, and as no type below a cycle is ever memorised, the memory spares no walk the part that leads
into a cycle. Main statements: `foundAbove_climb` (all that a walk finds), `belowCycle_iff`, and
`retells_superTypesOf` (every call logs the cycles that a first call logs).
-/

namespace TypeCatalog
open Relation Catalog

variable {c : Catalog}

/-! ### What a walk finds -/

namespace Catalog

/-- A cycle can be reached from a type. -/
def BelowCycle (c : Catalog) (name : String) : Prop :=
  ∃ type, ReflTransGen c.Rises name type ∧ TransGen c.Rises type type

/-- A type lists a super-type from which it can be reached. -/
def ClosesCycle (c : Catalog) (type parent : String) : Prop :=
  c.Rises type parent ∧ ReflTransGen c.Rises parent type

/-- What is found on walks from a type: names above it that have no definition, and edges above it
that close a cycle. -/
inductive FoundAbove (c : Catalog) (name : String) : Finding → Prop
  | unknown {type : String} : ReflTransGen c.Rises name type → c.entities.contains type = false →
      FoundAbove c name (undefinedSuperType type)
  | cycle {path : List String} {type parent : String} : ReflTransGen c.Rises name type →
      c.ClosesCycle type parent → FoundAbove c name (cycle path type parent)

end Catalog

/-- Whatever is found above a super-type is found above the type. -/
theorem Catalog.FoundAbove.below {name parent : String} {f : Finding} (hstep : c.Rises name parent)
    (h : c.FoundAbove parent f) : c.FoundAbove name f := by
  cases h with
  | unknown hreach hd => exact .unknown (.head hstep hreach) hd
  | cycle hreach hcloses => exact .cycle (.head hstep hreach) hcloses

/-- A cycle that is found above a type is closed by the super-type that the finding names. -/
theorem Catalog.FoundAbove.closes {name : String} {f : Finding} (h : c.FoundAbove name f)
    (hkind : f.kind = .cyclicInheritance) :
    c.BelowCycle name ∧ c.ClosesCycle f.owner f.subject := by
  cases h with
  | unknown => cases hkind
  | cycle hreach hcloses => exact ⟨⟨_, hreach, .head' hcloses.1 hcloses.2⟩, hcloses⟩

/-- What is found on the way up from several super-types is that one of them is on the path, or it is
found on the walk from one of them. -/
theorem found_climbFrom {path : List String} {name : String} {f : Finding}
    {walk : (parent : String) → parent ∉ path → Ascent × List Finding} :
    ∀ {parents : List String}, f ∈ (climbFrom path name walk parents).2 →
      ∃ parent ∈ parents,
        (parent ∈ path ∧ f = cycle path name parent) ∨ ∃ off, f ∈ (walk parent off).2
  | parent :: rest, hf => by
    have hrest : f ∈ (climbFrom path name walk rest).2 → ∃ p ∈ parent :: rest,
        (p ∈ path ∧ f = cycle path name p) ∨ ∃ off, f ∈ (walk p off).2 := fun hf => by
      obtain ⟨p, hp, hfound⟩ := found_climbFrom hf
      exact ⟨p, List.mem_cons_of_mem parent hp, hfound⟩
    rw [climbFrom] at hf
    by_cases on : parent ∈ path
    · simp only [on, dite_true] at hf
      rcases List.mem_cons.1 hf with hf | hf
      · exact ⟨parent, List.mem_cons_self, .inl ⟨on, hf⟩⟩
      · exact hrest hf
    · simp only [on, dite_false] at hf
      rcases List.mem_append.1 hf with hf | hf
      · exact ⟨parent, List.mem_cons_self, .inr ⟨on, hf⟩⟩
      · exact hrest hf

/-- A walk finds names without a definition and edges that close a cycle, and nothing else. -/
theorem foundAbove_climb {path : List String} {name : String} {off : name ∉ path} {f : Finding}
    (hpath : c.LeadsTo path name) (hf : f ∈ (c.climb path name off).2) : c.FoundAbove name f := by
  induction path, name, off using climb.induct (c := c) with
  | case1 path off => simp [climb_root] at hf
  | case2 path name off hr hd =>
    rw [climb_undefined hr hd, List.mem_singleton] at hf
    exact hf ▸ .unknown .refl (by rw [KeyMap.contains, hd]; rfl)
  | case3 path name off hr d hd ih =>
    rw [climb_defined hr hd] at hf
    obtain ⟨parent, hp, hf⟩ := found_climbFrom hf
    have hstep : c.Rises name parent := rises_iff.2 ⟨hr, d, hd, hp⟩
    rcases hf with ⟨hon, rfl⟩ | ⟨off', hf⟩
    · -- a type on the path leads up to the type at its end
      refine .cycle .refl ⟨hstep, ?_⟩
      rcases List.mem_append.1 hon with hon | hon
      · exact (hpath parent hon).to_reflTransGen
      · rw [List.mem_singleton.1 hon]
    · exact (ih parent off' (hpath.append hstep) hf).below hstep

theorem cut_climbFrom_iff {path : List String} (name : String)
    {walk : (parent : String) → parent ∉ path → Ascent × List Finding} :
    ∀ {parents : List String},
      (∀ parent ∈ parents, ∀ off, (walk parent off).1.cut = true ↔
        ∃ f ∈ (walk parent off).2, f.kind = .cyclicInheritance) →
      ((climbFrom path name walk parents).1.cut = true ↔
        ∃ f ∈ (climbFrom path name walk parents).2, f.kind = .cyclicInheritance)
  | [], _ => by simp [climbFrom]
  | parent :: rest, h => by
    have ih := cut_climbFrom_iff name fun p hp => h p (List.mem_cons_of_mem parent hp)
    rw [climbFrom]
    by_cases on : parent ∈ path
    · simp [on, cycle]
    · simp [on, ih, h parent List.mem_cons_self on, or_and_right, exists_or]

/-- A walk cuts something exactly if it finds a cycle. -/
theorem cut_climb_iff {path : List String} {name : String} {off : name ∉ path} :
    (c.climb path name off).1.cut = true ↔
      ∃ f ∈ (c.climb path name off).2, f.kind = .cyclicInheritance := by
  induction path, name, off using climb.induct (c := c) with
  | case1 path off => simp [climb_root]
  | case2 path name off hr hd => simp [climb_undefined hr hd, undefinedSuperType]
  | case3 path name off hr d hd ih =>
    rw [climb_defined hr hd]
    exact cut_climbFrom_iff name fun parent _ off' => ih parent off'

/-- Whoever is above a type that no cycle is above is below none either. -/
theorem Catalog.Grounded.of_reachable {name type : String} (h : c.Grounded name)
    (hreach : ReflTransGen c.Rises name type) : c.Grounded type := by
  induction hreach with
  | refl => exact h
  | tail _ hstep ih => exact ih.inv hstep

/-- A cycle can be reached from a type exactly if a walk from it finds one. -/
theorem belowCycle_iff {name : String} :
    c.BelowCycle name ↔ ∃ f ∈ (c.ancestry name).2, f.kind = .cyclicInheritance := by
  constructor
  · rintro ⟨type, hreach, hcycle⟩
    refine cut_climb_iff.1 (Bool.of_not_eq_false fun hcut => ?_)
    exact ((grounded_of_climb hcut).of_reachable hreach).not_cyclic hcycle
  · rintro ⟨f, hf, hkind⟩
    exact ((foundAbove_climb (leadsTo_nil name) hf).closes hkind).1

/-! ### What a call logs -/

/-- The cycles among findings. -/
def cyclesIn (fs : List Finding) : List Finding := fs.filter (·.kind = .cyclicInheritance)

theorem cyclesIn_append (fs gs : List Finding) : cyclesIn (fs ++ gs) = cyclesIn fs ++ cyclesIn gs :=
  List.filter_append ..

theorem mem_cyclesIn {fs : List Finding} {f : Finding} :
    f ∈ cyclesIn fs ↔ f ∈ fs ∧ f.kind = .cyclicInheritance := by
  rw [cyclesIn, List.mem_filter, decide_eq_true_iff]

/-- On a sound store a step logs the cycles that were found in making something, whatever it need not
find again besides. -/
def Retells (c : Catalog) {α : Type} (step : Step α) (made : α × List Finding) : Prop :=
  ∀ s, Sound c s → ∃ fs, (step.run s).2.log = s.log.addAll fs ∧ cyclesIn fs = cyclesIn made.2

namespace Retells
variable {α β : Type}

theorem pure (a : α) : Retells c (Pure.pure a) (a, []) := fun _ _ => ⟨[], rfl, rfl⟩

theorem report (fs : List Finding) : Retells c (Step.report fs) ((), fs) :=
  fun s _ => ⟨fs, by rw [Step.run_report], rfl⟩

theorem map {step : Step α} {made : α × List Finding} (f : α → β) (h : Retells c step made) :
    Retells c (step >>= fun a => Pure.pure (f a)) (f made.1, made.2) := by
  intro s hs
  rw [Work.run_bind]
  exact h s hs

/-- What follows a step starts on the sound store that the step leaves. -/
theorem bind {step : Step α} {next : α → Step β} {made : α × List Finding} {b : β}
    {fs : List Finding} (hgives : Gives c (fun _ => True) (fun _ => True) step made)
    (h : Retells c step made) (h' : Retells c (next made.1) (b, fs)) :
    Retells c (step >>= next) (b, made.2 ++ fs) := by
  intro s hs
  obtain ⟨hanswer, ⟨hsound, -, -⟩, -, -⟩ :=
    hgives.run (fun _ _ => trivial) ⟨hs, trivial, fun _ _ => trivial⟩
  obtain ⟨first, hfirst, hcycles⟩ := h s hs
  obtain ⟨others, hothers, hcycles'⟩ := h' (step.run s).2 hsound
  refine ⟨first ++ others, ?_, ?_⟩
  · rw [Work.run_bind, hanswer, hothers, hfirst, Log.addAll_append]
  · rw [cyclesIn_append, cyclesIn_append, hcycles, hcycles']

end Retells

theorem retells_ascendFrom {path : List String} (name : String)
    {walk : (parent : String) → parent ∉ path → Step Ascent}
    {climbed : (parent : String) → parent ∉ path → Ascent × List Finding} :
    ∀ {parents : List String},
      (∀ parent ∈ parents, ∀ off, Gives c (fun _ => True) (fun _ => True) (walk parent off)
        (climbed parent off) ∧ Retells c (walk parent off) (climbed parent off)) →
      Retells c (ascendFrom path name walk parents) (climbFrom path name climbed parents)
  | [], _ => .pure _
  | parent :: rest, h => by
    have ih := retells_ascendFrom name fun p hp => h p (List.mem_cons_of_mem parent hp)
    rw [ascendFrom, climbFrom]
    by_cases on : parent ∈ path
    · simp only [on, dite_true]
      refine .bind (.report _) (.report [cycle path name parent]) ?_
      exact ih.map fun others => { others with cut := true }
    · simp only [on, dite_false]
      obtain ⟨hgives, hretells⟩ := h parent List.mem_cons_self on
      exact hretells.bind hgives (ih.map fun others => _)

theorem log_settle (name : String) (walk : Ascent) (s : Store) :
    ((settle name walk).run s).2.log = s.log := by
  rw [settle]
  cases walk.cut <;> rfl

/-- A walk logs all cycles above its start, whatever is memorised: what is memorised of a type spares
the walk above it, and no cycle is above it. -/
theorem retells_ascend {path : List String} {name : String} {off : name ∉ path}
    (hpath : c.LeadsTo path name) :
    Retells c (c.ascend path name off) (c.climb path name off) := by
  induction hn : c.offPath path using Nat.strongRecOn generalizing path name with
  | _ n ih =>
    subst hn
    intro s hs
    rw [ascend, Work.run_bind, Work.run_get]
    dsimp only
    cases hk : s.memo.superTypes.find? name with
    | some known =>
      have hg := hs.grounded name (by rw [KeyMap.contains, hk]; rfl)
      refine ⟨[], rfl, (List.filter_eq_nil_iff.2 fun f hf hkind => ?_).symm⟩
      have hcut := cut_climb_iff.2 ⟨f, hf, of_decide_eq_true hkind⟩
      rw [climb_eq_ancestry hg hpath] at hcut
      cases hcut
    | none =>
      by_cases hr : name = c.config.rootType
      · rw [climb_root hr, if_pos hr]
        exact ⟨[], log_settle .., rfl⟩
      · dsimp only
        rw [if_neg hr]
        split
        next hd =>
          rw [climb_undefined hr hd, Work.run_bind, Step.run_report]
          exact ⟨[undefinedSuperType name], log_settle .., rfl⟩
        next d hd =>
          rw [climb_defined hr hd, Work.run_bind]
          have hfrom : Retells c
              (ascendFrom (path ++ [name]) name (fun parent off => c.ascend (path ++ [name]) parent off)
                d.superTypes)
              (climbFrom (path ++ [name]) name (fun parent off => c.climb (path ++ [name]) parent off)
                d.superTypes) := by
            refine retells_ascendFrom name fun parent hp off' => ?_
            have hpath' := hpath.append (rises_iff.2 ⟨hr, d, hd, hp⟩)
            exact ⟨gives_ascend hpath', ih _ (offPath_append_lt hd off) hpath' rfl⟩
          obtain ⟨fs, hlog, hcycles⟩ := hfrom s hs
          exact ⟨fs, (log_settle ..).trans hlog, hcycles⟩

/-- Whatever was asked before, a call for the super-types of a type logs the cycles above it. -/
theorem retells_superTypesOf (name : String) : Retells c (c.superTypesOf name) (c.ancestry name) :=
  (retells_ascend (leadsTo_nil name)).map fun walk : Ascent => walk.found

end TypeCatalog
