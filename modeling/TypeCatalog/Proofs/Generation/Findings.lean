import TypeCatalog.Proofs.Class.Findings
import TypeCatalog.Proofs.Generation.Runs
import TypeCatalog.Proofs.Inheritance.History

/-!
What a run finds about types that other types refer to. Main statements: `runFinding_of_mem` (all that
a run can find), `unknown_references_are_found` (a reference to a name without a definition is found,
and nothing else is taken for one) and `cycles_are_found` (a cycle is found exactly if someone walks
into one).
-/

namespace TypeCatalog
open Relation Catalog

variable {c : Catalog}

/-! ### All that is found -/

/-- What can be found in a run: something about declarations, an entity without a definition in a role
of a relationship, and what is found in making the class of an entity that is generated. -/
inductive Catalog.RunFinding (c : Catalog) : Finding → Prop
  | ofDeclarations {f : Finding} : f.kind.isLocal = true → RunFinding c f
  | unknownRole {name : String} {d : RelationshipType} {role : Role} :
      c.relationships.find? name = some d → role = d.first ∨ role = d.second →
      c.entities.contains role.entity = false → RunFinding c (RoleClass.unknownEntity d.name role)
  | ofEntity {name : String} {d : EntityType} {f : Finding} : c.entities.find? name = some d →
      c.config.includes d.toTypeHeader = true → c.EntityFinding d f → RunFinding c f

theorem runFinding_groundwork (hnamed : c.Named) : ∀ f ∈ c.groundworkFound, c.RunFinding f := by
  simp only [groundworkFound, List.forall_mem_append]
  refine ⟨⟨fun f hf => ?_, fun f hf => ?_⟩, fun f hf => ?_⟩
  · exact .ofDeclarations (Local.flatMap (fun d _ => Local.enum d) f hf)
  · exact .ofDeclarations (Local.flatMap (fun d _ => Local.struct d) f hf)
  · obtain ⟨d, hd, hf⟩ := List.mem_flatMap.1 hf
    obtain ⟨name, hname⟩ := KeyMap.mem_values_iff.1 hd
    rcases found_relationship (settled_allNamed hnamed) d hf with hf | ⟨role, hrole, hunknown, rfl⟩
    · exact .ofDeclarations hf
    · exact .unknownRole hname hrole hunknown

theorem entityFinding_entityMade (hnamed : c.Named) (d : EntityType) :
    ∀ f ∈ (c.entityMade d).2, c.EntityFinding d f :=
  List.forall_mem_append.2
    ⟨entityFinding_shownOn, entityFinding_ofType (settled_allMade hnamed) (c.shownOn d.name).1⟩

/-- All that a run finds, if building the catalog has found nothing about types. -/
theorem runFinding_of_mem {found : List Finding} {g : ClassModels} (h : g.Generated c found)
    (hnamed : c.Named) (hfound : Local found) : ∀ f ∈ g.findings, c.RunFinding f := by
  intro f hf
  rcases (h.findings f).1 hf with hf | hf | ⟨name, d, hd, hincluded, hf⟩
  · exact .ofDeclarations (hfound f hf)
  · exact runFinding_groundwork hnamed f hf
  · exact .ofEntity hd hincluded (entityFinding_entityMade hnamed d f hf)

/-! ### Unknown references -/

/-- Whether findings of a kind are that a name has no definition to which something refers. -/
def FindingKind.isUnknownReference : FindingKind → Bool
  | .danglingReference | .undefinedType => true
  | .conflict | .repeatedIndex | .unknownCombination | .cyclicInheritance => false

theorem FindingKind.isUnknownReference_of_isLocal {kind : FindingKind} (h : kind.isLocal = true) :
    kind.isUnknownReference = false := by
  cases kind with
  | conflict | repeatedIndex | unknownCombination => rfl
  | danglingReference | undefinedType | cyclicInheritance => cases h

/-- A run finds that something of an owner refers to a name without a definition. -/
def ClassModels.FindsUnknown (g : ClassModels) (owner type : String) : Prop :=
  ∃ f ∈ g.findings, f.kind.isUnknownReference = true ∧ f.owner = owner ∧ f.subject = type

namespace Catalog

theorem FoundAbove.unknown_subject {name : String} {f : Finding} (h : c.FoundAbove name f)
    (hkind : f.kind.isUnknownReference = true) : c.entities.contains f.subject = false := by
  cases h with
  | unknown _ hd => exact hd
  | cycle => cases hkind

theorem EntityFinding.unknown_subject {d : EntityType} {f : Finding} (h : c.EntityFinding d f)
    (hkind : f.kind.isUnknownReference = true) : c.entities.contains f.subject = false := by
  cases h with
  | ofDeclarations hlocal =>
    rw [FindingKind.isUnknownReference_of_isLocal hlocal] at hkind
    cases hkind
  | unknownAncestor _ _ hd => exact hd
  | above h => exact h.unknown_subject hkind
  | unknownSubType _ hd => exact hd
  | unknownSuperType _ hd => exact hd

/-- Whatever a run takes for a name without a definition has none. -/
theorem RunFinding.unknown_subject {f : Finding} (h : c.RunFinding f)
    (hkind : f.kind.isUnknownReference = true) : c.entities.contains f.subject = false := by
  cases h with
  | ofDeclarations hlocal =>
    rw [FindingKind.isUnknownReference_of_isLocal hlocal] at hkind
    cases hkind
  | unknownRole _ _ hd => exact hd
  | ofEntity _ _ h => exact h.unknown_subject hkind

end Catalog

namespace ClassModels.Generated
variable {found : List Finding} {g : ClassModels} {name type : String}

/-- A run finds all names without a definition that a generated entity lists or that are above it. -/
theorem findsUnknown_entity (h : g.Generated c found) (hnamed : c.Named) {d : EntityType}
    (hd : c.entities.find? name = some d) (hincluded : c.config.includes d.toTypeHeader = true)
    (hunknown : c.entities.contains type = false)
    (hrefers : type ∈ d.subTypes ∨ type ∈ d.superTypes ∨ TransGen c.Extends name type) :
    g.FindsUnknown name type := by
  obtain rfl := hnamed.entities name d hd
  have hfound : ∀ f ∈ (c.entityMade d).2, f ∈ g.findings := fun f hf =>
    (h.findings f).2 (.inr (.inr ⟨d.name, d, hd, hincluded, hf⟩))
  obtain ⟨hsub, hsuper⟩ := unknownListed_mem_ofType (d := d) (settled_allMade hnamed)
    (c.shownOn d.name).1 hunknown
  rcases hrefers with hrefers | hrefers | hreach
  · exact ⟨_, hfound _ (List.mem_append_right _ (hsub hrefers)), rfl, rfl, rfl⟩
  · exact ⟨_, hfound _ (List.mem_append_right _ (hsuper hrefers)), rfl, rfl, rfl⟩
  · refine ⟨undefinedAncestor d.name type, hfound _ (List.mem_append_left _ ?_), rfl, rfl, rfl⟩
    refine List.mem_append_right _ (List.mem_append_left _ ?_)
    exact unknownAncestor_mem_closure hreach.to_reflTransGen hunknown

/-- A run finds all entities without a definition in the roles of relationships. -/
theorem findsUnknown_role (h : g.Generated c found) (hnamed : c.Named) {d : RelationshipType}
    (hd : c.relationships.find? name = some d) {role : Role} (hrole : role = d.first ∨ role = d.second)
    (hunknown : c.entities.contains role.entity = false) : g.FindsUnknown name role.entity := by
  refine ⟨RoleClass.unknownEntity d.name role,
    (h.findings _).2 (.inr (.inl (List.mem_append_right _ ?_))), rfl,
    hnamed.relationships name d hd, rfl⟩
  exact List.mem_flatMap.2 ⟨d, KeyMap.mem_values_iff.2 ⟨name, hd⟩,
    unknownEntity_mem_relationship (settled_allNamed hnamed) hrole hunknown⟩

end ClassModels.Generated

/-- In every run, whatever has no definition and is listed as a sub-type or a super-type by a
generated entity, is reached from it going up, or is the entity in a role of a relationship, is found
as an unknown reference of that entity or relationship; and every unknown reference that is found is
to a name that has no definition. -/
theorem unknown_references_are_found (config : Config) (snapshot : Snapshot) (options : RunOptions) :
    let c := (Catalog.ofSnapshot config snapshot).1
    let g := ClassModels.ofSnapshot config options snapshot
    (∀ name d, c.entities.find? name = some d → config.includes d.toTypeHeader = true →
      ∀ type, c.entities.contains type = false →
        type ∈ d.subTypes ∨ type ∈ d.superTypes ∨ TransGen c.Extends name type →
          g.FindsUnknown name type) ∧
      (∀ name d, c.relationships.find? name = some d → ∀ role, role = d.first ∨ role = d.second →
        c.entities.contains role.entity = false → g.FindsUnknown name role.entity) ∧
      ∀ f ∈ g.findings, f.kind.isUnknownReference = true →
        c.entities.contains f.subject = false := by
  intro c g
  have h : g.Generated c _ := generated_ofSnapshot config snapshot options
  have hnamed : c.Named := named_ofSnapshot config snapshot
  refine ⟨fun name d hd hincluded type => h.findsUnknown_entity hnamed hd hincluded,
    fun name d hd role => h.findsUnknown_role hnamed hd, fun f hf => ?_⟩
  exact (runFinding_of_mem h hnamed (Local.ofSnapshot config snapshot) f hf).unknown_subject

/-! ### Cycles -/

/-- Cycles are found in making the classes of generated entities, on the walks to their
super-types. -/
theorem Catalog.RunFinding.closes (hnamed : c.Named) {f : Finding} (h : c.RunFinding f)
    (hkind : f.kind = .cyclicInheritance) :
    (∃ name ∈ c.included, c.BelowCycle name) ∧ c.ClosesCycle f.owner f.subject := by
  cases h with
  | ofDeclarations hlocal => rw [hkind] at hlocal; cases hlocal
  | unknownRole => cases hkind
  | @ofEntity name d _ hd hincluded h =>
    cases h with
    | ofDeclarations hlocal => rw [hkind] at hlocal; cases hlocal
    | unknownAncestor => cases hkind
    | above h =>
      obtain ⟨hbelow, hcloses⟩ := h.closes hkind
      rw [hnamed.entities name d hd] at hbelow
      exact ⟨⟨name, mem_included.2 ⟨d, hd, hincluded⟩, hbelow⟩, hcloses⟩
    | unknownSubType => cases hkind
    | unknownSuperType => cases hkind

/-- A cycle that is above a generated entity is found in a run. -/
theorem ClassModels.Generated.finds_cycle {found : List Finding} {g : ClassModels}
    (h : g.Generated c found) (hnamed : c.Named) {name : String} (hname : name ∈ c.included)
    (hbelow : c.BelowCycle name) : ∃ f ∈ g.findings, f.kind = .cyclicInheritance := by
  obtain ⟨d, hd, hincluded⟩ := mem_included.1 hname
  obtain rfl := hnamed.entities name d hd
  obtain ⟨f, hf, hkind⟩ := belowCycle_iff.1 hbelow
  refine ⟨f, (h.findings f).2 (.inr (.inr ⟨d.name, d, hd, hincluded, ?_⟩)), hkind⟩
  have hwalk : f ∈ (c.introduced d.name).2 := by
    rw [introduced, KeyMap.contains, hd]
    exact hf
  exact List.mem_append_left _ (List.mem_append_right _ (List.mem_append_right _
    (List.mem_append_left _ hwalk)))

/-- Whatever a catalog was asked before, a call for the super-types of a name logs a cycle exactly if
one can be reached from the name without going up from the root type, and a run finds a cycle exactly
if one can be reached so from an entity that it generates. Each cycle that is logged or found names an
owner and one of its super-types from which the owner can be reached. -/
theorem cycles_are_found (config : Config) (snapshot : Snapshot) (history : List Call)
    (name : String) (options : RunOptions) :
    let c := (Catalog.ofSnapshot config snapshot).1
    let fresh := Store.ofFindings (Catalog.ofSnapshot config snapshot).2
    let s := ((history.mapM c.perform).run fresh).2
    let g := ClassModels.ofSnapshot config options snapshot
    (∃ logged, ((c.superTypesOf name).run s).2.log = s.log.addAll logged ∧
      ((∃ f ∈ logged, f.kind = .cyclicInheritance) ↔ c.BelowCycle name) ∧
      ∀ f ∈ logged, f.kind = .cyclicInheritance → c.ClosesCycle f.owner f.subject) ∧
    ((∃ f ∈ g.findings, f.kind = .cyclicInheritance) ↔
      ∃ entity ∈ c.included, c.BelowCycle entity) ∧
    ∀ f ∈ g.findings, f.kind = .cyclicInheritance → c.ClosesCycle f.owner f.subject := by
  intro c fresh s g
  have h : g.Generated c _ := generated_ofSnapshot config snapshot options
  have hnamed : c.Named := named_ofSnapshot config snapshot
  have hfinding := runFinding_of_mem h hnamed (Local.ofSnapshot config snapshot)
  have hs : Sound c s := (history_of_sound history (.ofFindings _)).2
  obtain ⟨logged, hlog, hcycles⟩ := retells_superTypesOf name s hs
  -- a finding of the call is a cycle exactly if it is one that a first call finds
  have hsame : ∀ f, f ∈ logged ∧ f.kind = .cyclicInheritance ↔
      f ∈ (c.ancestry name).2 ∧ f.kind = .cyclicInheritance := fun f => by
    rw [← mem_cyclesIn, hcycles, mem_cyclesIn]
  refine ⟨⟨logged, hlog, ?_, fun f hf hkind => ?_⟩, ⟨?_, ?_⟩, fun f hf hkind => ?_⟩
  · rw [belowCycle_iff]
    exact exists_congr hsame
  · exact ((foundAbove_climb (leadsTo_nil name) ((hsame f).1 ⟨hf, hkind⟩).1).closes hkind).2
  · rintro ⟨f, hf, hkind⟩
    exact ((hfinding f hf).closes hnamed hkind).1
  · rintro ⟨entity, hentity, hbelow⟩
    exact h.finds_cycle hnamed hentity hbelow
  · exact ((hfinding f hf).closes hnamed hkind).2

end TypeCatalog
