import TypeCatalog.Inheritance.Answers
import TypeCatalog.Proofs.Inheritance.Climb
import TypeCatalog.Proofs.Interference

/-!
What is memorised is right. In a `Sound` store every memorised answer is the one that the
definitions give, what was found in working it out is in the log, and a type whose super-types are
memorised is below no cycle. All workers keep the store sound (`Catalog.discipline`), so that a
step may have one answer (`Gives`), whatever was asked before and whatever others ask meanwhile.
Main statements: `Gives.bind`, `Gives.mapM` and `Gives.together` compose such steps, and
`Gives.run` uses them.
-/

namespace TypeCatalog

/-! ### Answers without a memory -/

namespace Catalog

/-- The names of the relationships that an entity introduces, with what is found in the walk to its
super-types. -/
def introduced (c : Catalog) (name : String) : KeySet String × List Finding :=
  if c.entities.contains name then
    (c.namesIntroduced name (c.ancestry name).1, (c.ancestry name).2)
  else (∅, [])

/-- The attributes that an entity shows and the asset type does not. -/
def extraAttributes (c : Catalog) (name : String) : Closure Attribute × List Finding :=
  let base := c.attributeClosure c.config.assetType
  let shown := c.attributeClosure name
  (without shown.1 base.1, base.2 ++ shown.2)

/-- The relationships that an entity shows and the asset type does not. -/
def extraRelationships (c : Catalog) (name : String) :
    Closure RelationshipAttribute × List Finding :=
  let base := c.relationshipClosure c.config.assetType
  let shown := c.relationshipClosure name
  (without shown.1 base.1, base.2 ++ shown.2)

end Catalog

/-! ### Sound stores -/

/-- A table holds right answers only, and what is found in giving them is in the log. -/
def Recalls {α : Type} (log : Log) (table : KeyMap String α)
    (answer : String → α × List Finding) : Prop :=
  ∀ name known, table.find? name = some known →
    known = (answer name).1 ∧ (answer name).2 ⊆ log.entries

namespace Recalls
variable {α : Type} {log : Log} {table : KeyMap String α} {answer : String → α × List Finding}

theorem mono {log' : Log} (h : Recalls log table answer) (hlog : log.entries ⊆ log'.entries) :
    Recalls log' table answer :=
  fun name known hk => ⟨(h name known hk).1, List.Subset.trans (h name known hk).2 hlog⟩

theorem insert {name : String} (h : Recalls log table answer)
    (hlog : (answer name).2 ⊆ log.entries) :
    Recalls log (table.insert name (answer name).1) answer := by
  intro other known hk
  rw [KeyMap.find?_insert] at hk
  split at hk
  next he =>
    subst he
    exact ⟨(Option.some.inj hk).symm, hlog⟩
  next => exact h other known hk

end Recalls

/-- All that is memorised is right. -/
structure Sound (c : Catalog) (s : Store) : Prop where
  superTypes : Recalls s.log s.memo.superTypes c.ancestry
  grounded : ∀ name, s.memo.superTypes.contains name = true → c.Grounded name
  attributes : Recalls s.log s.memo.attributes c.attributeClosure
  relationships : Recalls s.log s.memo.relationships c.relationshipClosure
  introduced : Recalls s.log s.memo.introduced c.introduced
  extraAttributes : Recalls s.log s.memo.extraAttributes c.extraAttributes
  extraRelationships : Recalls s.log s.memo.extraRelationships c.extraRelationships

namespace Sound
variable {c : Catalog} {s : Store}

/-- Nothing is memorised at the start of a run. -/
theorem ofFindings (fs : List Finding) : Sound c (Store.ofFindings fs) := by
  constructor <;> intro name <;> simp [Store.ofFindings]

theorem add (h : Sound c s) (f : Finding) : Sound c { s with log := s.log.add f } where
  superTypes := h.superTypes.mono (List.subset_cons_self f _)
  grounded := h.grounded
  attributes := h.attributes.mono (List.subset_cons_self f _)
  relationships := h.relationships.mono (List.subset_cons_self f _)
  introduced := h.introduced.mono (List.subset_cons_self f _)
  extraAttributes := h.extraAttributes.mono (List.subset_cons_self f _)
  extraRelationships := h.extraRelationships.mono (List.subset_cons_self f _)

theorem register (h : Sound c s) (r : Registry) : Sound c { s with registry := r } :=
  { h with }

/-- The super-types of a type may be memorised if no cycle is above it. -/
theorem settle {name : String} (h : Sound c s) (hg : c.Grounded name)
    (hlog : (c.ancestry name).2 ⊆ s.log.entries) :
    Sound c { s with memo := { s.memo with
      superTypes := s.memo.superTypes.insert name (c.ancestry name).1 } } :=
  { h with
    superTypes := h.superTypes.insert hlog
    grounded := fun other ho => by
      rcases (KeyMap.contains_insert ..).1 ho with rfl | ho
      · exact hg
      · exact h.grounded other ho }

end Sound

/-! ### Steps with one answer -/

/-- Workers on a store keep it sound, leave the registry in a given condition, and log allowed
findings only; the log grows. -/
def Catalog.discipline (c : Catalog) (known : Registry → Prop) (allowed : Finding → Prop) :
    Discipline Store where
  holds s := Sound c s ∧ known s.registry ∧ ∀ f ∈ s.log.entries, allowed f
  later s t := s.log.entries <:+ t.log.entries
  refl s := List.suffix_refl s.log.entries
  trans := List.IsSuffix.trans

/-- A step gives what was made, and at the end what was found is in the log, whatever other workers
do in between; this if all that was found is allowed. -/
def Gives (c : Catalog) (known : Registry → Prop) (allowed : Finding → Prop) {α : Type}
    (step : Step α) (made : α × List Finding) : Prop :=
  (∀ f ∈ made.2, allowed f) → ∀ s, step.Ensures (c.discipline known allowed) s fun a t =>
    a = made.1 ∧ made.2 ⊆ t.log.entries

section Steps
variable {c : Catalog} {known : Registry → Prop} {allowed : Finding → Prop} {α β : Type}

/-- What is read is sound, and what is in its log stays in the log. -/
theorem ensures_get (s : Store) :
    (get : Step Store).Ensures (c.discipline known allowed) s fun a t =>
      Sound c a ∧ known a.registry ∧ a.log.entries ⊆ t.log.entries := by
  refine .read fun t _ ht u htu _ => ?_
  exact ⟨ht.1, ht.2.1, htu.subset⟩

namespace Gives

theorem pure (a : α) : Gives c known allowed (Pure.pure a) (a, []) :=
  fun _ _ => .pure fun _ _ _ => ⟨rfl, List.nil_subset _⟩

theorem bind {step : Step α} {next : α → Step β} {made : α × List Finding} {b : β}
    {fs : List Finding} (h : Gives c known allowed step made)
    (h' : Gives c known allowed (next made.1) (b, fs)) :
    Gives c known allowed (step >>= next) (b, made.2 ++ fs) := by
  intro hall s
  refine (h (fun f hf => hall f (List.mem_append_left _ hf)) s).bind ?_
  rintro a t - - ⟨rfl, ht⟩
  refine (h' (fun f hf => hall f (List.mem_append_right _ hf)) t).mono ?_
  rintro b u htu - ⟨rfl, hu⟩
  exact ⟨rfl, List.append_subset.2 ⟨List.Subset.trans ht htu.subset, hu⟩⟩

theorem map {step : Step α} {made : α × List Finding} (f : α → β)
    (h : Gives c known allowed step made) :
    Gives c known allowed (step >>= fun a => Pure.pure (f a)) (f made.1, made.2) := by
  intro hall s
  refine (h hall s).bind ?_
  rintro a t - - ⟨rfl, ht⟩
  exact .pure fun u htu _ => ⟨rfl, List.Subset.trans ht htu.subset⟩

theorem log (f : Finding) :
    Gives c known allowed (modify fun s : Store => { s with log := s.log.add f }) ((), [f]) := by
  refine fun hall s => .write fun t _ ⟨hsound, hknown, hlog⟩ => ?_
  refine ⟨⟨hsound.add f, hknown, fun g hg => ?_⟩, List.suffix_cons f _, fun u hu _ => ⟨rfl, ?_⟩⟩
  · rcases List.mem_cons.1 hg with rfl | hg
    · exact hall g (List.mem_singleton_self g)
    · exact hlog g hg
  · exact List.cons_subset.2 ⟨hu.subset List.mem_cons_self, List.nil_subset _⟩

theorem report : ∀ fs : List Finding, Gives c known allowed (Step.report fs) ((), fs)
  | [] => pure ()
  | f :: rest => by
    have h : Gives c known allowed (Step.report (f :: rest)) ((), [f] ++ rest) := by
      rw [Step.report]
      exact (log f).bind (report rest)
    exact h

theorem yield (made : α × List Finding) : Gives c known allowed (Step.yield made) made :=
  (report made.2).map fun _ => made.1

/-- A step that looks at the registry may depend on what is known of it. -/
theorem ofRegistry (next : Registry → Step α) {made : α × List Finding}
    (h : ∀ r, known r → Gives c known allowed (next r) made) :
    Gives c known allowed (do next (← get).registry) made := by
  intro hall s
  refine (ensures_get s).bind ?_
  rintro a t - - ⟨-, hknown, -⟩
  exact h a.registry hknown hall t

theorem mapM {step : α → Step β} {answer : α → β × List Finding} {l : List α}
    (h : ∀ a ∈ l, Gives c known allowed (step a) (answer a)) :
    Gives c known allowed (l.mapM step)
      (l.map fun a => (answer a).1, l.flatMap fun a => (answer a).2) := by
  induction l with
  | nil => exact pure []
  | cons a l ih =>
    rw [List.mapM_cons, List.map_cons, List.flatMap_cons]
    refine (h a List.mem_cons_self).bind ?_
    exact (ih fun b hb => h b (List.mem_cons_of_mem a hb)).map ((answer a).1 :: ·)

/-- Several workers at once, each with one of the steps, give what one worker gives who takes the
steps one after another. -/
theorem together {step : α → Step β} {answer : α → β × List Finding} {l : List α}
    (schedule : List Nat) (h : ∀ a ∈ l, Gives c known allowed (step a) (answer a)) :
    Gives c known allowed (Work.together schedule (l.map step))
      (l.map fun a => (answer a).1, l.flatMap fun a => (answer a).2) := by
  intro hall s
  have hpooled : Work.Pooled (c.discipline known allowed) s (l.map step) fun i b t =>
      ∀ a, l[i]? = some a → b = (answer a).1 ∧ (answer a).2 ⊆ t.log.entries := by
    intro i w hw
    rw [List.getElem?_map, Option.map_eq_some_iff] at hw
    obtain ⟨a, ha, rfl⟩ := hw
    have hmem := List.mem_of_getElem? ha
    refine (h a hmem (fun f hf => hall f (List.mem_flatMap_of_mem hmem hf)) s).mono ?_
    rintro b t - - hgives a' ha'
    obtain rfl := Option.some.inj (ha.symm.trans ha')
    exact hgives
  refine (Work.ensures_together schedule hpooled).mono ?_
  rintro answers t - - ⟨hlen, hpost⟩
  rw [List.length_map] at hlen
  have hget : ∀ (i : Nat) a, l[i]? = some a →
      answers[i]? = some (answer a).1 ∧ (answer a).2 ⊆ t.log.entries := by
    intro i a ha
    have hi : i < answers.length := hlen ▸ (List.getElem?_eq_some_iff.1 ha).1
    obtain ⟨hanswer, hfound⟩ := hpost i _ (List.getElem?_eq_getElem hi) a ha
    exact ⟨hanswer ▸ List.getElem?_eq_getElem hi, hfound⟩
  constructor
  · refine List.ext_getElem? fun i => ?_
    rw [List.getElem?_map]
    cases hi : l[i]? with
    | none => exact List.getElem?_eq_none (hlen ▸ List.getElem?_eq_none_iff.1 hi)
    | some a => exact (hget i a hi).1
  · intro f hf
    obtain ⟨a, ha, hf⟩ := List.mem_flatMap.1 hf
    obtain ⟨i, hi⟩ := List.getElem?_of_mem ha
    exact (hget i a hi).2 hf

/-- A step that nobody interrupts gives what was made, and leaves a store in which that is found and
nothing is that was not allowed. -/
theorem run {step : Step α} {made : α × List Finding} {s : Store}
    (h : Gives c known allowed step made) (hall : ∀ f ∈ made.2, allowed f)
    (hs : (c.discipline known allowed).holds s) :
    (step.run s).1 = made.1 ∧ (c.discipline known allowed).holds (step.run s).2 ∧
      s.log.entries ⊆ (step.run s).2.log.entries ∧ made.2 ⊆ (step.run s).2.log.entries := by
  obtain ⟨hold, hlater, hdone⟩ := (h hall s).run hs
  obtain ⟨hanswer, hfound⟩ := hdone _ (List.suffix_refl _) hold
  exact ⟨hanswer, hold, hlater.subset, hfound⟩

/-- On a sound store a step with one answer gives that answer. -/
theorem answer {step : Step α} {made : α × List Finding} {s : Store}
    (h : Gives c (fun _ => True) (fun _ => True) step made) (hs : Sound c s) :
    (step.run s).1 = made.1 :=
  (h.run (fun _ _ => trivial) ⟨hs, trivial, fun _ _ => trivial⟩).1

end Gives
end Steps
end TypeCatalog
