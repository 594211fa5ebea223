import TypeCatalog.Proofs.Class.Own
import TypeCatalog.Proofs.Class.Typing

/-!
Where the properties of an entity's class come from. Each of them is made of an attribute that the
entity or a type above it declares and that this type shows in its own class too: what a type leaves
out of its own class it passes on to no other, whatever name the property gets and whichever of
several attributes gives it. Main statements: `traced_propertiesOf` and `attributes_are_traced`.
-/

namespace TypeCatalog
open Relation Catalog

/-- A property under a name in the class of an entity is told by an attribute that is declared and
shown by the entity or by a type above it. -/
structure Property.Traced (c : Catalog) (name key : String) (p : Property) : Prop where
  above : ReflTransGen c.Extends name p.declaredBy
  declared : ∃ a, c.EntityDeclares p.declaredBy a ∧ a.name = p.source ∧
    c.shows a.name a.typeName = true
  renamed : p.name = c.config.propertyNameOf p.source
  filed : p.name = key
  inherited : p.inherited = true ↔ p.declaredBy ≠ name

section
variable {c : Catalog} {r : Registry} {d : EntityType} {name n : String} {p : Property}

/-- The own tier has the names of the attributes that the entity declares and shows. -/
theorem contains_ownProperties :
    (PropertySet.insertMade d.name ∅ (c.ownProperties r d)).1.contains n = true ↔
      ∃ a ∈ d.attributes,
        c.shows a.name a.typeName = true ∧ c.config.propertyNameOf a.name = n := by
  rw [ownProperties, PropertySet.contains_made]
  simp only [List.mem_filter, and_assoc]
  exact Iff.rfl

/-- Properties that are made of what an entity shows, or of a part of it, can be traced. -/
theorem traced_propertiesOf {closure : Closure Attribute}
    (hpart : ∀ key o, closure.find? key = some o → (c.attributeClosure name).1.find? key = some o)
    (hp : (PropertySet.insertMade name ∅ (c.propertiesOf r name closure)).1.get? n = some p) :
    p.Traced c name n := by
  obtain ⟨o, ho, rfl⟩ := get?_propertiesOf.1 hp
  obtain ⟨hout, hname⟩ := putsOut_iff.1 (List.find?_some ho)
  obtain ⟨key, hkey⟩ := KeyMap.mem_values_iff.1 (List.mem_of_find?_eq_some ho)
  have hshown := hpart key o hkey
  exact {
    above := (of_find?_closure hshown).above
    declared := ⟨o.declaration, declared_of_closure hshown, rfl, shows_of_closure hshown hout⟩
    renamed := rfl
    filed := hname
    inherited := decide_eq_true_iff }

/-- Both the properties that a class shows and those that it adds can be traced. -/
theorem traced_entity
    (hp : (EntityClass.ofType c r d (c.shownOn d.name).1).1.attributes.shown.get? n = some p ∨
      (EntityClass.ofType c r d (c.shownOn d.name).1).1.attributes.added.get? n = some p) :
    p.Traced c d.name n := by
  rcases hp with hp | hp
  · exact traced_propertiesOf (fun _ _ ho => ho) hp
  · exact traced_propertiesOf (fun _ _ ho => find?_addedAttributes ho) hp

end

/-- Whatever a catalog did before: every property that the class of an entity shows or adds can be
traced to an attribute of the entity or of a type above it, and the class of that type, made at any
time, has a property of the same name of its own; and the own properties of a class are those of the
entity itself. -/
theorem attributes_are_traced (config : Config) (snapshot : Snapshot) (history history' : List Call)
    (name : String)
    (hname : (Catalog.ofSnapshot config snapshot).1.entities.contains name = true) :
    let c := (Catalog.ofSnapshot config snapshot).1
    ∃ made, EntityClass.after? config snapshot history name = some made ∧
      (∀ n p, made.attributes.shown.get? n = some p ∨ made.attributes.added.get? n = some p →
        p.Traced c name n ∧ ∃ owner,
          EntityClass.after? config snapshot history' p.declaredBy = some owner ∧
            owner.attributes.own.contains p.name = true) ∧
      ∀ n p, made.attributes.own.get? n = some p → p.declaredBy = name ∧ p.inherited = false := by
  intro c
  obtain ⟨r, d, -, rfl, hmade⟩ := after?_eq config snapshot history hname
  refine ⟨_, hmade, fun n p hp => ?_, fun n p hp => declaredBy_own hp⟩
  have htraced := traced_entity hp
  obtain ⟨a, ⟨type, htype, ha⟩, hsource, hshows⟩ := htraced.declared
  have hdefined : c.entities.contains p.declaredBy = true := by
    rw [KeyMap.contains, htype]
    rfl
  obtain ⟨r', owner, howner, -, hmade'⟩ := after?_eq config snapshot history' hdefined
  obtain rfl : type = owner := Option.some.inj (htype.symm.trans howner)
  refine ⟨htraced, _, hmade', contains_ownProperties.2 ⟨a, ha, hshows, ?_⟩⟩
  rw [hsource, ← htraced.renamed]

/-- An inherited property is shown, and the class of the type that declares its attribute has it of
its own. -/
theorem inherited_fooBar_traced :
    ∃ made p owner, EntityClass.after? {} metNames [] "View" = some made ∧
      made.attributes.shown.get? "fooBar" = some p ∧ p.inherited = true ∧
      EntityClass.after? {} metNames [] p.declaredBy = some owner ∧
      owner.attributes.own.contains "fooBar" = true := by
  obtain ⟨made, hmade, htraced, -⟩ := attributes_are_traced {} metNames [] [] "View"
    (by decide +kernel)
  obtain ⟨r, d, hd, hname, hmade'⟩ := after?_eq {} metNames []
    (show (ofSnapshot {} metNames).1.entities.contains "View" = true by decide +kernel)
  obtain rfl := Option.some.inj (hmade.symm.trans hmade')
  have hfound : viewClosure.values.find? ((ofSnapshot {} metNames).1.putsOut "fooBar") =
      some ⟨"Asset", { name := "fooBar", typeName := "string" }⟩ := by decide +kernel
  rw [← closures_metNames.2.2, ← hname] at hfound
  have hshown : (EntityClass.ofType (ofSnapshot {} metNames).1 r d
      ((ofSnapshot {} metNames).1.shownOn d.name).1).1.attributes.shown.get? "fooBar" = some _ :=
    get?_propertiesOf.2 ⟨_, hfound, rfl⟩
  obtain ⟨traced, owner, howner, hown⟩ := htraced _ _ (.inl hshown)
  have hinherited := traced.inherited.2 (show "Asset" ≠ "View" by decide)
  exact ⟨_, _, owner, hmade, hshown, hinherited, howner, traced.filed ▸ hown⟩

end TypeCatalog
