import TypeCatalog.Proofs.Inheritance.Memory

/-!
Each question about inheritance has one answer. Workers who keep the store sound are given what the
walk without a memory meets (`gives_ascend`, `gives_superTypesOf`), and what the closures of the
definitions hold, whatever is memorised when they ask and while they work.
-/

namespace TypeCatalog
open Relation Catalog

variable {c : Catalog} {known : Registry → Prop} {allowed : Finding → Prop}

/-- A step that memorises something and gives an answer keeps the store sound if what it memorises
is right by then. -/
theorem ensures_memorise {α : Type} (write : Memo → Memo) {answer : α} {fs : List Finding}
    {s : Store} (hlog : fs ⊆ s.log.entries)
    (hwrite : ∀ t, Sound c t → fs ⊆ t.log.entries → Sound c { t with memo := write t.memo }) :
    (do modify fun s : Store => { s with memo := write s.memo }
        return answer : Step α).Ensures (c.discipline known allowed) s fun a t =>
      a = answer ∧ fs ⊆ t.log.entries := by
  have hmodify : (modify fun s : Store => { s with memo := write s.memo } : Step PUnit).Ensures
      (c.discipline known allowed) s fun _ _ => True := by
    refine .write fun t hst ⟨hsound, hknown, hall⟩ => ?_
    exact ⟨⟨hwrite t hsound (List.Subset.trans hlog hst.subset), hknown, hall⟩, List.suffix_refl _,
      fun _ _ _ => trivial⟩
  refine hmodify.bind fun _ t hst _ _ => .pure fun u htu _ => ⟨rfl, ?_⟩
  exact List.Subset.trans (List.Subset.trans hlog hst.subset) htu.subset

/-! ### Walks -/

theorem gives_ascendFrom {path : List String} (name : String)
    {walk : (parent : String) → parent ∉ path → Step Ascent}
    {climbed : (parent : String) → parent ∉ path → Ascent × List Finding} :
    ∀ {parents : List String},
      (∀ parent ∈ parents, ∀ off, Gives c known allowed (walk parent off) (climbed parent off)) →
      Gives c known allowed (ascendFrom path name walk parents)
        (climbFrom path name climbed parents)
  | [], _ => .pure _
  | parent :: rest, h => by
    have ih := gives_ascendFrom name fun p hp => h p (List.mem_cons_of_mem parent hp)
    rw [ascendFrom, climbFrom]
    by_cases on : parent ∈ path
    · simp only [on, dite_true]
      refine (Gives.report [cycle path name parent]).bind ?_
      exact ih.map fun others => { others with cut := true }
    · simp only [on, dite_false]
      exact (h parent List.mem_cons_self on).bind (ih.map fun others => _)

/-- Memorising the outcome of a walk keeps the store sound if the walk cut nothing. -/
theorem ensures_settle {name : String} {walk : Ascent} {fs : List Finding} {s : Store}
    (hlog : fs ⊆ s.log.entries)
    (hwalk : walk.cut = false → c.Grounded name ∧ c.ancestry name = (walk.found, fs)) :
    (settle name walk).Ensures (c.discipline known allowed) s fun a t =>
      a = walk ∧ fs ⊆ t.log.entries := by
  rw [settle]
  cases hcut : walk.cut with
  | true => exact .pure fun t hst _ => ⟨rfl, List.Subset.trans hlog hst.subset⟩
  | false =>
    obtain ⟨hg, hanc⟩ := hwalk hcut
    refine ensures_memorise
      (fun m => { m with superTypes := m.superTypes.insert name walk.found }) hlog fun t ht hfs => ?_
    have hfound : walk.found = (c.ancestry name).1 := by rw [hanc]
    rw [hfound]
    exact ht.settle hg (by rw [hanc]; exact hfs)

/-- A walk gives what the walk without a memory meets, whatever is memorised: a memorised type is
below no cycle, so that what is known of it does not depend on the path. -/
theorem gives_ascend {path : List String} {name : String} {off : name ∉ path}
    (hpath : c.LeadsTo path name) :
    Gives c known allowed (c.ascend path name off) (c.climb path name off) := by
  induction hn : c.offPath path using Nat.strongRecOn generalizing path name with
  | _ n ih =>
    subst hn
    intro hall s
    have hwalk : (c.climb path name off).1.cut = false → c.Grounded name ∧
        c.ancestry name = ((c.climb path name off).1.found, (c.climb path name off).2) := by
      intro hcut
      have hg := grounded_of_climb hcut
      exact ⟨hg, by rw [climb_eq_ancestry hg hpath]⟩
    rw [ascend]
    refine (ensures_get s).bind ?_
    rintro a t - - ⟨hsound, -, hat⟩
    cases hk : a.memo.superTypes.find? name with
    | some answer =>
      have hg := hsound.grounded name (by rw [KeyMap.contains, hk]; rfl)
      obtain ⟨rfl, hfs⟩ := hsound.superTypes name answer hk
      rw [climb_eq_ancestry hg hpath]
      exact .pure fun u htu _ =>
        ⟨rfl, List.Subset.trans (List.Subset.trans hfs hat) htu.subset⟩
    | none =>
      by_cases hr : name = c.config.rootType
      · rw [climb_root hr] at hwalk ⊢
        dsimp only
        rw [if_pos hr]
        exact ensures_settle (List.nil_subset _) hwalk
      · dsimp only
        rw [if_neg hr]
        split
        next hd =>
          rw [climb_undefined hr hd] at hall hwalk ⊢
          refine (Gives.report _ hall t).bind ?_
          rintro _ u - - ⟨-, hu⟩
          exact ensures_settle hu hwalk
        next d hd =>
          rw [climb_defined hr hd] at hall hwalk ⊢
          refine (gives_ascendFrom name (fun parent hp off' => ?_) hall t).bind ?_
          · exact ih _ (offPath_append_lt hd off) (hpath.append (rises_iff.2 ⟨hr, d, hd, hp⟩)) rfl
          · rintro _ u - - ⟨rfl, hu⟩
            exact ensures_settle hu hwalk

theorem gives_superTypesOf (name : String) :
    Gives c known allowed (c.superTypesOf name) (c.ancestry name) :=
  (gives_ascend (leadsTo_nil name)).map fun walk : Ascent => walk.found

/-! ### Tables -/

section Tables
variable {α : Type} {table : Memo → KeyMap String α} {write : Memo → KeyMap String α → Memo}

/-- A table of right answers gives the right answer, and holds it from then on. -/
theorem gives_memorised {name : String} {work : Step α} {answer : String → α × List Finding}
    (hwork : Gives c known allowed work (answer name))
    (hrecalls : ∀ s, Sound c s → Recalls s.log (table s.memo) answer)
    (hwrite : ∀ s, Sound c s → Recalls s.log ((table s.memo).insert name (answer name).1) answer →
      Sound c { s with memo := write s.memo ((table s.memo).insert name (answer name).1) }) :
    Gives c known allowed (Step.memorised table write name work) (answer name) := by
  intro hall s
  refine (ensures_get s).bind ?_
  rintro a t - - ⟨hsound, -, hat⟩
  cases hk : (table a.memo).find? name with
  | some value =>
    obtain ⟨rfl, hfs⟩ := hrecalls a hsound name value hk
    exact .pure fun u htu _ =>
      ⟨rfl, List.Subset.trans (List.Subset.trans hfs hat) htu.subset⟩
  | none =>
    refine (hwork hall t).bind ?_
    rintro _ u - - ⟨rfl, hu⟩
    exact ensures_memorise (fun m => write m ((table m).insert name (answer name).1)) hu
      fun v hv hfs => hwrite v hv ((hrecalls v hv).insert hfs)

end Tables

theorem gives_attributesOf (name : String) :
    Gives c known allowed (c.attributesOf name) (c.attributeClosure name) :=
  gives_memorised (.yield _) (fun _ hs => hs.attributes) fun _ hs h => { hs with attributes := h }

theorem gives_relationshipsOf (name : String) :
    Gives c known allowed (c.relationshipsOf name) (c.relationshipClosure name) :=
  gives_memorised (.yield _) (fun _ hs => hs.relationships)
    fun _ hs h => { hs with relationships := h }

theorem gives_introducedBy (name : String) :
    Gives c known allowed (c.introducedBy name) (c.introduced name) := by
  refine gives_memorised ?_ (fun _ hs => hs.introduced) fun _ hs h => { hs with introduced := h }
  unfold introduced
  split
  · exact (gives_superTypesOf name).map (c.namesIntroduced name)
  · exact .pure _

theorem gives_extraAttributesOf (name : String) :
    Gives c known allowed (c.extraAttributesOf name) (c.extraAttributes name) := by
  refine gives_memorised ?_ (fun _ hs => hs.extraAttributes)
    fun _ hs h => { hs with extraAttributes := h }
  refine (gives_attributesOf c.config.assetType).bind ?_
  exact (gives_attributesOf name).map fun shown => without shown _

theorem gives_extraRelationshipsOf (name : String) :
    Gives c known allowed (c.extraRelationshipsOf name) (c.extraRelationships name) := by
  refine gives_memorised ?_ (fun _ hs => hs.extraRelationships)
    fun _ hs h => { hs with extraRelationships := h }
  refine (gives_relationshipsOf c.config.assetType).bind ?_
  exact (gives_relationshipsOf name).map fun shown => without shown _

end TypeCatalog
