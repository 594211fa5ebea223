import TypeCatalog.Proofs.Class.Tiers

/-!
What becomes of the attributes that an entity declares itself. Where the entity gathers what it
shows, its own declaration of an attribute comes before all inherited ones; but the properties that
its class shows are made in the order of the attributes' names, whoever declares them, and of two
that share a property name the first one stays. Main statements: `find?_closure_own` and
`own_shown_iff_leads`.
-/

namespace TypeCatalog
open Catalog

/-! ### First in a list -/

section
variable {α : Type} {l : List α} {p q : α → Bool} {a b : α}

/-- What is found first comes before whatever else might have been found. -/
theorem first_of_find? {R : α → α → Prop} (h : l.Pairwise R) (ha : l.find? p = some a)
    (hb : b ∈ l) (hp : p b = true) : a = b ∨ R a b := by
  obtain ⟨-, before, after, rfl, hbefore⟩ := List.find?_eq_some_iff_append.1 ha
  obtain ⟨-, htail, -⟩ := List.pairwise_append.1 h
  rcases List.mem_append.1 hb with hb | hb
  · have hnot := hbefore b hb
    rw [hp] at hnot
    cases hnot
  · rcases List.mem_cons.1 hb with rfl | hb
    · exact .inl rfl
    · exact .inr ((List.pairwise_cons.1 htail).1 b hb)

/-- Two searches that might each have found what the other one did have found the same. -/
theorem find?_unique (ha : l.find? p = some a) (hb : l.find? q = some b) (hpb : p b = true)
    (hqa : q a = true) : a = b := by
  induction l with
  | nil => cases ha
  | cons d rest ih =>
    rw [List.find?_cons] at ha hb
    cases hpd : p d <;> cases hqd : q d <;> simp only [hpd, hqd] at ha hb
    · exact ih ha hb
    · obtain rfl := Option.some.inj hb
      rw [hpd] at hpb
      cases hpb
    · obtain rfl := Option.some.inj ha
      rw [hqd] at hqa
      cases hqa
    · exact Option.some.inj (ha.symm.trans hb)

end

/-! ### Own declarations in a closure -/

section
variable {α : Type} {c : Catalog} {m : Member α} {closure : Closure α} {name : String}

/-- A closure lists what is in it in the order of the names. -/
theorem ascending_values (hfiled : Filed m closure) :
    closure.values.Pairwise fun a b =>
      compare (m.name a.declaration) (m.name b.declaration) = .lt := by
  rw [KeyMap.values, List.pairwise_map]
  refine closure.ascending.imp_of_mem fun {a b} ha hb hlt => ?_
  rw [hfiled a.1 a.2 (KeyMap.mem_entries_iff.1 ha), hfiled b.1 b.2 (KeyMap.mem_entries_iff.1 hb)]
  exact hlt

/-- Each name under which an entity itself has a declaration that is passed on belongs to the first
such declaration, whatever is above the entity. -/
theorem find?_closure_own (passes : String → α → Bool) {d : EntityType} {a : α}
    (hd : c.entities.find? name = some d) (ha : a ∈ m.declared d) (hpass : passes name a = true) :
    ∃ first, (c.closure m passes name).1.find? (m.name a) = some ⟨name, first⟩ ∧
      (m.declared d).find? (fun b => passes name b = true ∧ m.name b = m.name a) = some first := by
  obtain ⟨first, hfirst⟩ : ∃ first, (m.declared d).find?
      (fun b => passes name b = true ∧ m.name b = m.name a) = some first := by
    rw [← Option.isSome_iff_exists, List.find?_isSome]
    exact ⟨a, ha, decide_eq_true ⟨hpass, rfl⟩⟩
  refine ⟨first, ?_, hfirst⟩
  have hlineage : c.lineage name = name :: c.lineageFrom [name] (c.superTypes name) := by
    rw [Catalog.lineage, lineageFrom_cons, if_neg (List.not_mem_nil), List.nil_append,
      List.append_nil]
  rw [find?_closure, hlineage, declarations, List.flatMap_cons, hd, Option.elim_some,
    List.find?_append, List.find?_map, Function.comp_def, hfirst]
  rfl

end

/-! ### Own properties in a class -/

/-- Whether a declaration is put out as a property of a name. -/
def Catalog.putsOut (c : Catalog) (n : String) (o : Owned Attribute) : Bool :=
  o.declaration.typeName ≠ c.config.internalType && c.config.propertyNameOf o.declaration.name = n

/-- Something is put out of a closure under a name, and under no lesser name something that gives
the same property name. -/
structure Catalog.Leads (c : Catalog) (closure : Closure Attribute) (source : String) : Prop where
  exposed : Exposes c.External closure source
  least : ∀ key, Exposes c.External closure key →
    c.config.propertyNameOf key = c.config.propertyNameOf source → (compare source key).isLE = true

section
variable {c : Catalog} {r : Registry} {d : EntityType} {closure : Closure Attribute} {n : String}
  {p : Property}

theorem putsOut_iff {o : Owned Attribute} : c.putsOut n o = true ↔
    c.External o ∧ c.config.propertyNameOf o.declaration.name = n := by
  simp [putsOut, External]

/-- The property of a name that an entity's class has of its own is made of the first attribute of
the entity that is shown and gives that name. -/
theorem get?_ownProperties :
    (PropertySet.insertMade d.name ∅ (c.ownProperties r d)).1.get? n = some p ↔
      ∃ a, (d.attributes.find? fun a =>
          c.shows a.name a.typeName && c.config.propertyNameOf a.name = n) = some a ∧
        (Property.ofAttribute c.config r .keyword d.name d.name a).1 = p := by
  rw [ownProperties, PropertySet.get?_made, List.find?_filter, Option.map_eq_some_iff]
  simp only [Bool.decide_and, Bool.decide_eq_true]
  exact Iff.rfl

/-- The property of a name that is made of a closure comes from the first declaration that is put
out under it. -/
theorem get?_propertiesOf {owner : String} :
    (PropertySet.insertMade owner ∅ (c.propertiesOf r owner closure)).1.get? n = some p ↔
      ∃ o, closure.values.find? (c.putsOut n) = some o ∧
        (Property.ofAttribute c.config r .keyword owner o.owner o.declaration).1 = p := by
  rw [propertiesOf, PropertySet.get?_made, List.find?_filter, Option.map_eq_some_iff]
  simp only [Bool.decide_and, Bool.decide_eq_true]
  exact Iff.rfl

/-- The declaration under a name is the first that is put out as its property if the name leads. -/
theorem leads_iff_find? {o : Owned Attribute} {source : String}
    (hfiled : Filed .attributes closure) (ho : closure.find? source = some o) :
    c.Leads closure source ↔
      closure.values.find? (c.putsOut (c.config.propertyNameOf source)) = some o := by
  have hname : o.declaration.name = source := hfiled source o ho
  have hmem : o ∈ closure.values := KeyMap.mem_values_iff.2 ⟨source, ho⟩
  constructor
  · rintro ⟨⟨o', ho', hout⟩, hleast⟩
    obtain rfl : o = o' := Option.some.inj (ho.symm.trans ho')
    have hfit : c.putsOut (c.config.propertyNameOf source) o = true :=
      putsOut_iff.2 ⟨hout, by rw [hname]⟩
    obtain ⟨first, hfirst⟩ := Option.isSome_iff_exists.1 (List.find?_isSome.2 ⟨o, hmem, hfit⟩)
    rcases first_of_find? (ascending_values hfiled) hfirst hmem hfit with rfl | hlt
    · exact hfirst
    · -- what is found first would be less than what leads
      obtain ⟨key, hkey⟩ := KeyMap.mem_values_iff.1 (List.mem_of_find?_eq_some hfirst)
      obtain ⟨hout', hsame⟩ := putsOut_iff.1 (List.find?_some hfirst)
      have hname' : first.declaration.name = key := hfiled key first hkey
      have hlt' : compare first.declaration.name o.declaration.name = .lt := hlt
      have hle := hleast key ⟨first, hkey, hout'⟩ (hname' ▸ hsame)
      rw [← hname, ← hname', Std.OrientedCmp.gt_iff_lt.2 hlt'] at hle
      cases hle
  · intro h
    obtain ⟨hout, -⟩ := putsOut_iff.1 (List.find?_some h)
    refine ⟨⟨o, ho, hout⟩, fun key ⟨o', ho', hout'⟩ hsame => ?_⟩
    have hname' : o'.declaration.name = key := hfiled key o' ho'
    have hmem' : o' ∈ closure.values := KeyMap.mem_values_iff.2 ⟨key, ho'⟩
    have hfit' : c.putsOut (c.config.propertyNameOf source) o' = true :=
      putsOut_iff.2 ⟨hout', by rw [hname', hsame]⟩
    rw [← hname, ← hname']
    rcases first_of_find? (ascending_values hfiled) h hmem' hfit' with rfl | hlt
    · have hself : compare o.declaration.name o.declaration.name = .eq := Std.ReflCmp.compare_self
      rw [hself]
      rfl
    · have hlt' : compare o.declaration.name o'.declaration.name = .lt := hlt
      rw [hlt']
      rfl

/-- A property that an entity's class has of its own is shown exactly if its attribute leads. -/
theorem own_shown_iff (hd : c.entities.find? d.name = some d) (hroot : d.name ≠ c.config.rootType)
    (hown : (PropertySet.insertMade d.name ∅ (c.ownProperties r d)).1.get? n = some p) :
    (PropertySet.insertMade d.name ∅
        (c.propertiesOf r d.name (c.attributeClosure d.name).1)).1.get? n = some p ↔
      c.Leads (c.attributeClosure d.name).1 p.source := by
  obtain ⟨a, ha, rfl⟩ := get?_ownProperties.1 hown
  have hfit := List.find?_some ha
  obtain ⟨hshows, hn⟩ := (Bool.and_eq_true ..).mp hfit
  obtain rfl := of_decide_eq_true hn
  have hpass : c.passesAttribute d.name a = true := by
    simp only [shows, Bool.and_eq_true] at hshows
    simp [passesAttribute, hroot, hshows.2]
  obtain ⟨first, hclosure, hfirst⟩ := find?_closure_own (m := .attributes)
    c.passesAttribute hd (List.mem_of_find?_eq_some ha) hpass
  have hfiled : Filed .attributes (c.attributeClosure d.name).1 :=
    filed_closure c c.passesAttribute d.name
  rw [get?_propertiesOf]
  constructor
  · rintro ⟨o, ho, hsame⟩
    obtain ⟨key, hkey⟩ := KeyMap.mem_values_iff.1 (List.mem_of_find?_eq_some ho)
    have hname : o.declaration.name = a.name := congrArg Property.source hsame
    obtain rfl : key = a.name := (hfiled key o hkey).symm.trans hname
    exact (leads_iff_find? hfiled hkey).2 ho
  · intro hleads
    have hfound := (leads_iff_find? hfiled hclosure).1 hleads
    obtain ⟨hout, -⟩ := putsOut_iff.1 (List.find?_some hfound)
    -- the declaration that leads is the entity's first one of its name, which is not internal
    obtain rfl : a = first := by
      have hcalled := List.find?_some hfirst
      obtain ⟨hpass', hname⟩ := of_decide_eq_true hcalled
      have hname' : first.name = a.name := hname
      have hshows' : c.shows first.name first.typeName = true := by
        rw [shows, hname', Bool.and_eq_true]
        simp only [shows, Bool.and_eq_true] at hshows
        exact ⟨decide_eq_true hout, hshows.2⟩
      refine find?_unique ha hfirst ?_ (decide_eq_true ⟨hpass, rfl⟩)
      rw [hshows', hname', Bool.true_and, decide_eq_true rfl]
    exact ⟨_, hfound, rfl⟩

/-- A property that an entity's class has of its own is one that the entity declares. -/
theorem declaredBy_own
    (hown : (PropertySet.insertMade d.name ∅ (c.ownProperties r d)).1.get? n = some p) :
    p.declaredBy = d.name ∧ p.inherited = false := by
  obtain ⟨a, -, rfl⟩ := get?_ownProperties.1 hown
  exact ⟨rfl, decide_eq_false (not_not_intro rfl)⟩

end

/-! ### Classes after a history -/

/-- Whatever a catalog did before, the class of an entity other than the root type shows, of the
properties that it has of its own, exactly those whose attributes lead among all that are visible on
the entity. -/
theorem own_shown_iff_leads (config : Config) (snapshot : Snapshot) (history : List Call)
    (name : String)
    (hname : (Catalog.ofSnapshot config snapshot).1.entities.contains name = true)
    (hroot : name ≠ config.rootType) :
    let c := (Catalog.ofSnapshot config snapshot).1
    ∃ made, EntityClass.after? config snapshot history name = some made ∧
      ∀ n p, made.attributes.own.get? n = some p →
        (p.declaredBy = name ∧ p.inherited = false) ∧
          (made.attributes.shown.get? n = some p ↔
            c.Leads (c.attributeClosure name).1 p.source) := by
  intro c
  obtain ⟨r, d, hd, rfl, hmade⟩ := after?_eq config snapshot history hname
  exact ⟨_, hmade, fun n p hown => ⟨declaredBy_own hown, own_shown_iff hd hroot hown⟩⟩

/-- A property whose name no other one has is shown. -/
theorem own_query_shown :
    ∃ made p, EntityClass.after? {} metNames [] "View" = some made ∧
      made.attributes.own.get? "query" = some p ∧ made.attributes.shown.get? "query" = some p := by
  obtain ⟨made, hmade, hshown⟩ := own_shown_iff_leads {} metNames [] "View" (by decide +kernel)
    (by decide)
  obtain ⟨r, d, hd, hname, hmade'⟩ := after?_eq {} metNames []
    (show (ofSnapshot {} metNames).1.entities.contains "View" = true by decide +kernel)
  obtain rfl := Option.some.inj (hmade.symm.trans hmade')
  have hfirst : ((ofSnapshot {} metNames).1.entities.find? "View").bind (fun d =>
      d.attributes.find? fun a => (ofSnapshot {} metNames).1.shows a.name a.typeName &&
        (ofSnapshot {} metNames).1.config.propertyNameOf a.name = "query") =
      some { name := "query", typeName := "string" } := by decide +kernel
  rw [hd, Option.bind_some] at hfirst
  have hown := (get?_ownProperties (r := r)).2 ⟨_, hfirst, rfl⟩
  have hfiled : Filed .attributes viewClosure :=
    closures_metNames.2.2 ▸ filed_closure _ (ofSnapshot {} metNames).1.passesAttribute "View"
  have hleads : (ofSnapshot {} metNames).1.Leads viewClosure "query" :=
    (leads_iff_find? (o := ⟨"View", { name := "query", typeName := "string" }⟩) hfiled
      (by decide +kernel)).2 (by decide +kernel)
  rw [← closures_metNames.2.2] at hleads
  exact ⟨_, _, hmade, hown, (hshown _ _ hown).2.2 hleads⟩

/-- An inherited property may be shown in the place of one that the entity declares. -/
theorem own_displaced :
    ∃ made p, EntityClass.after? {} metNames [] "Table" = some made ∧
      made.attributes.own.get? "fooBar" = some p ∧
      made.attributes.shown.get? "fooBar" ≠ some p := by
  obtain ⟨r, d, hd, hname, hmade⟩ := after?_eq {} metNames []
    (show (ofSnapshot {} metNames).1.entities.contains "Table" = true by decide +kernel)
  have hfirst : ((ofSnapshot {} metNames).1.entities.find? "Table").bind (fun d =>
      d.attributes.find? fun a => (ofSnapshot {} metNames).1.shows a.name a.typeName &&
        (ofSnapshot {} metNames).1.config.propertyNameOf a.name = "fooBar") =
      some { name := "foo_bar", typeName := "string" } := by decide +kernel
  rw [hd, Option.bind_some] at hfirst
  have hown := (get?_ownProperties (r := r)).2 ⟨_, hfirst, rfl⟩
  have htrails : ¬ (ofSnapshot {} metNames).1.Leads tableClosure "foo_bar" := by
    intro h
    have hle := h.least "fooBar" ⟨_, rfl, by rw [External]; decide +kernel⟩ (by decide +kernel)
    exact absurd hle (by decide +kernel)
  refine ⟨_, _, hmade, hown, fun hshown => htrails ?_⟩
  rw [← closures_metNames.2.1]
  exact hname ▸ (own_shown_iff (hname ▸ hd) (by rw [hname]; decide +kernel) hown).1 hshown

end TypeCatalog
