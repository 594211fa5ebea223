import TypeCatalog.Proofs.Inheritance.Coverage
import TypeCatalog.Proofs.Inheritance.Cycles

/-!
Who introduces a relationship. A type introduces the relationships that it declares and that no
super-type of it declares, whether or not the type passes them on. Where no cycle is above, going up
from a declaration comes to an end, so that each relationship is introduced by some type above its
declaration; and never by two types one of which is above the other. Main statements:
`introduced_above` and `introduced_once`.
-/

namespace TypeCatalog
open Relation Catalog

variable {c : Catalog} {name type key : String}

theorem mem_relationshipNames : key ∈ c.relationshipNames type ↔
    ∃ d, c.entities.find? type = some d ∧ ∃ a ∈ d.relationshipAttributes, a.name = key := by
  rw [relationshipNames]
  cases c.entities.find? type <;> simp

/-- An entity introduces the relationships that it declares and that no super-type declares. -/
theorem contains_introduced : (c.introduced name).1.contains key = true ↔
    key ∈ c.relationshipNames name ∧ ∀ type, (c.ancestry name).1.contains type = true →
      type ≠ name → key ∉ c.relationshipNames type := by
  by_cases hdefined : c.entities.contains name = true
  · have hinherited : key ∉ ((c.ancestry name).1.keys.filter (· ≠ name)).flatMap
        c.relationshipNames ↔ ∀ type, (c.ancestry name).1.contains type = true → type ≠ name →
          key ∉ c.relationshipNames type := by
      simp only [List.mem_flatMap, List.mem_filter, KeyMap.mem_keys_iff, decide_eq_true_eq]
      exact ⟨fun h type hmet hne hkey => h ⟨type, ⟨hmet, hne⟩, hkey⟩,
        fun h ⟨type, ⟨hmet, hne⟩, hkey⟩ => h type hmet hne hkey⟩
    rw [introduced, if_pos hdefined, namesIntroduced, KeySet.contains_ofKeys, List.mem_filter,
      decide_eq_true_eq, hinherited]
  · have hnone : c.relationshipNames name = [] := by
      rw [relationshipNames, Option.not_isSome_iff_eq_none.1 hdefined]
      rfl
    rw [introduced, if_neg hdefined, hnone]
    simp

/-- A type from which no cycle can be reached is one that no cycle is above. -/
theorem grounded_of_not_belowCycle (h : ¬ c.BelowCycle name) : c.Grounded name := by
  have hcut : (c.climb [] name List.not_mem_nil).1.cut = false := by
    rw [Bool.eq_false_iff]
    intro hcut
    exact h (belowCycle_iff.2 (cut_climb_iff.1 hcut))
  exact grounded_of_climb hcut

/-- Of a relationship that a type declares, that type or one above it is the one that introduces it,
if no cycle is above. -/
theorem introduced_above (hg : c.Grounded type) (hkey : key ∈ c.relationshipNames type) :
    ∃ first, ReflTransGen c.Rises type first ∧ (c.introduced first).1.contains key = true := by
  -- the induction goes from a type to any type above it, however many steps up
  have hacc := hg.transGen
  clear hg
  induction hacc with
  | intro type _ ih =>
    by_cases hintroduced : (c.introduced type).1.contains key = true
    · exact ⟨type, .refl, hintroduced⟩
    · obtain ⟨above, hmet, hne, habove⟩ : ∃ above, (c.ancestry type).1.contains above = true ∧
          above ≠ type ∧ key ∈ c.relationshipNames above := by
        simpa [contains_introduced, hkey] using hintroduced
      have hreach : TransGen c.Rises type above := by
        rcases contains_ancestry.1 hmet with ⟨-, heq⟩ | ⟨-, hreach⟩
        · exact absurd heq hne
        · exact hreach
      obtain ⟨first, hfirst, hcontains⟩ := ih above (transGen_swap.2 hreach) habove
      exact ⟨first, hreach.to_reflTransGen.trans hfirst, hcontains⟩

/-- What a type introduces is introduced by no other type among its super-types. -/
theorem not_introduced_above {above : String} (hne : above ≠ type)
    (habove : (c.ancestry type).1.contains above = true)
    (h : (c.introduced type).1.contains key = true) :
    ¬ (c.introduced above).1.contains key = true :=
  fun h' => (contains_introduced.1 h).2 above habove hne (contains_introduced.1 h').1

/-- Whatever a catalog was asked before: if no cycle can be reached from an entity, every
relationship that it or a super-type of it declares is introduced by it or a super-type of it; and
of two types one of which is a super-type of the other at most one introduces a relationship. -/
theorem introduced_once (config : Config) (snapshot : Snapshot) (history : List Call)
    (name : String) :
    let c := (Catalog.ofSnapshot config snapshot).1
    let fresh := Store.ofFindings (Catalog.ofSnapshot config snapshot).2
    let s := ((history.mapM c.perform).run fresh).2
    let superTypes (type : String) := ((c.superTypesOf type).run s).1
    let introduced (type : String) := ((c.introducedBy type).run s).1
    (¬ c.BelowCycle name → ∀ type d a, type = name ∨ (superTypes name).contains type = true →
        c.entities.find? type = some d → a ∈ d.relationshipAttributes →
        ∃ first, (first = name ∨ (superTypes name).contains first = true) ∧
          (introduced first).contains a.name = true) ∧
      ∀ type above key, above ≠ type → (superTypes type).contains above = true →
        (introduced type).contains key = true → ¬ (introduced above).contains key = true := by
  intro c fresh s superTypes introduced
  have hs : Sound c s := (history_of_sound history (.ofFindings _)).2
  have hsuper : superTypes = fun type => (c.ancestry type).1 :=
    funext fun type => (gives_superTypesOf type).answer hs
  have hintroduced : introduced = fun type => (c.introduced type).1 :=
    funext fun type => (gives_introducedBy type).answer hs
  rw [hsuper, hintroduced]
  refine ⟨fun hcycle type d a htype hd ha => ?_, fun type above key hne => not_introduced_above hne⟩
  have hreach : ReflTransGen c.Rises name type := self_or_ancestry.1 htype
  have hg : c.Grounded type := (grounded_of_not_belowCycle hcycle).of_reachable hreach
  obtain ⟨first, hfirst, hcontains⟩ :=
    introduced_above hg (mem_relationshipNames.2 ⟨d, hd, a, ha, rfl⟩)
  exact ⟨first, self_or_ancestry.2 (hreach.trans hfirst), hcontains⟩

/-- A type with two super-types that have one in common. The relationship that it declares is
declared at the top, and again on one of the ways there. -/
def declaredAgain : Snapshot where
  entities := [
    { name := "Asset", relationshipAttributes := [
        { name := "links", typeName := "array<Asset>", relationship := "asset_links" }] },
    { name := "Dataset", superTypes := ["Asset"], relationshipAttributes := [
        { name := "links", typeName := "array<Dataset>", relationship := "dataset_links" }] },
    { name := "Resource", superTypes := ["Asset"] },
    { name := "Table", superTypes := ["Dataset", "Resource"], relationshipAttributes := [
        { name := "links", typeName := "array<Table>", relationship := "table_links" }] }]

/-- What is declared again is introduced at the top, and there only. -/
theorem links_introduced_once :
    let c := (Catalog.ofSnapshot {} declaredAgain).1
    let fresh := Store.ofFindings (Catalog.ofSnapshot {} declaredAgain).2
    let superTypes := ((c.superTypesOf "Table").run fresh).1
    ¬ c.BelowCycle "Table" ∧
      (∃ first, (first = "Table" ∨ superTypes.contains first = true) ∧
        ((c.introducedBy first).run fresh).1.contains "links" = true) ∧
      ¬ ((c.introducedBy "Table").run fresh).1.contains "links" = true := by
  intro c fresh superTypes
  have hcycle : ¬ c.BelowCycle "Table" := by
    rw [belowCycle_iff]
    decide +kernel
  obtain ⟨habove, honce⟩ := introduced_once {} declaredAgain [] "Table"
  have hdeclared : (c.entities.find? "Table").any (fun d => d.relationshipAttributes.contains
      { name := "links", typeName := "array<Table>", relationship := "table_links" }) = true := by
    decide +kernel
  obtain ⟨d, hd, ha⟩ := (Option.any_eq_true ..).mp hdeclared
  refine ⟨hcycle, habove hcycle "Table" d _ (.inl rfl) hd (List.contains_iff_mem.1 ha), ?_⟩
  exact fun htable => honce "Table" "Asset" "links" (by decide) (by decide +kernel) htable
    (by decide +kernel)

end TypeCatalog
