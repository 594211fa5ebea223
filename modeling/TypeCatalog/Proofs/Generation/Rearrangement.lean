import TypeCatalog.Proofs.Finding.Listing
import TypeCatalog.Proofs.Generation.Runs
import TypeCatalog.Proofs.KeyMap

/-!
The order of definitions in a snapshot. An indexed catalog holds the first definition of each name and
reports the names that come again, so a run does not show in which order the definitions of different
names stand. Main statement: `order_does_not_show`.
-/

namespace TypeCatalog
open Catalog

/-! ### Lists of definitions -/

section
variable {α : Type} {name : α → String} {l l' : List α}

/-- A list in another order, in which the definitions of one name come one after another as before. -/
structure Rearranged (name : α → String) (l l' : List α) : Prop where
  reordered : l'.Perm l
  kept : ∀ key, (l'.filter fun d => name d = key) = l.filter fun d => name d = key

/-- Two lists have the same first definition of each name, and the same names come again. -/
structure SameOutline (name : α → String) (l l' : List α) : Prop where
  first : ∀ key, (l'.find? fun d => name d = key) = l.find? fun d => name d = key
  again : ∀ key, 2 ≤ (l'.filter fun d => name d = key).length ↔
    2 ≤ (l.filter fun d => name d = key).length

theorem Rearranged.sameOutline (h : Rearranged name l l') : SameOutline name l l' where
  first key := by rw [← List.head?_filter, ← List.head?_filter, h.kept]
  again key := by rw [h.kept]

namespace SameOutline
variable {kind : String}

/-- Lists of the same outline are indexed alike. -/
theorem index_eq (h : SameOutline name l l') :
    (indexByName name kind l' ∅).1 = (indexByName name kind l ∅).1 :=
  KeyMap.ext_find? fun key => by rw [find?_indexByName, find?_indexByName, h.first]

/-- And the same is found in indexing them. -/
theorem mem_found (h : SameOutline name l l') {f : Finding} :
    f ∈ (indexByName name kind l' ∅).2 ↔ f ∈ (indexByName name kind l ∅).2 := by
  simp only [found_indexByName, KeyMap.contains_empty, Bool.false_eq_true, if_false, h.again]

end SameOutline
end

/-! ### Snapshots -/

namespace Snapshot

/-- A snapshot with all of its lists in another order, in each of which the definitions of one name
come one after another as before. -/
structure Rearranges (s s' : Snapshot) : Prop where
  enums : Rearranged (fun d => d.name) s.enums s'.enums
  structs : Rearranged (fun d => d.name) s.structs s'.structs
  entities : Rearranged (fun d => d.name) s.entities s'.entities
  relationships : Rearranged (fun d => d.name) s.relationships s'.relationships

/-- Two snapshots have, kind by kind, the same first definition of each name, and the same names come
again. -/
structure SharesOutline (s s' : Snapshot) : Prop where
  enums : SameOutline (fun d => d.name) s.enums s'.enums
  structs : SameOutline (fun d => d.name) s.structs s'.structs
  entities : SameOutline (fun d => d.name) s.entities s'.entities
  relationships : SameOutline (fun d => d.name) s.relationships s'.relationships

variable {s s' : Snapshot}

theorem Rearranges.sharesOutline (h : s.Rearranges s') : s.SharesOutline s' :=
  ⟨h.enums.sameOutline, h.structs.sameOutline, h.entities.sameOutline, h.relationships.sameOutline⟩

/-- Snapshots of the same outline give the same catalog. -/
theorem SharesOutline.catalog_eq (h : s.SharesOutline s') (config : Config) :
    (Catalog.ofSnapshot config s').1 = (Catalog.ofSnapshot config s).1 := by
  simp only [Catalog.ofSnapshot, h.enums.index_eq, h.structs.index_eq, h.entities.index_eq,
    h.relationships.index_eq]

/-- And the same is found in building it, maybe in another order. -/
theorem SharesOutline.mem_found (h : s.SharesOutline s') (config : Config) {f : Finding} :
    f ∈ (Catalog.ofSnapshot config s').2 ↔ f ∈ (Catalog.ofSnapshot config s).2 := by
  simp only [Catalog.ofSnapshot, List.mem_append, h.enums.mem_found, h.structs.mem_found,
    h.entities.mem_found, h.relationships.mem_found]

end Snapshot

/-! ### Runs -/

/-- The findings of a run are listed in order, each once. -/
theorem ascending_findings (config : Config) (options : RunOptions) (snapshot : Snapshot) :
    (ClassModels.ofSnapshot config options snapshot).findings.Pairwise
      fun f f' => compare f f' = .lt := by
  have hmodels : ClassModels.ofSnapshot config options snapshot = _ :=
    run_classModels (c := (Catalog.ofSnapshot config snapshot).1)
      (s := .ofFindings (Catalog.ofSnapshot config snapshot).2) options
  rw [hmodels]
  exact Log.ascending_listing _

/-- What a run gives is told by the catalog and by what was found in building it. -/
theorem ClassModels.Generated.unique {c : Catalog} {found found' : List Finding}
    {g g' : ClassModels} (h : g.Generated c found) (h' : g'.Generated c found')
    (hfound : ∀ f, f ∈ found ↔ f ∈ found')
    (hordered : g.findings.Pairwise fun f f' => compare f f' = .lt)
    (hordered' : g'.findings.Pairwise fun f f' => compare f f' = .lt) : g = g' := by
  have henums : g.enums = g'.enums :=
    KeyMap.ext_find? fun key => (h.enums key).trans (h'.enums key).symm
  have hstructs : g.structs = g'.structs :=
    KeyMap.ext_find? fun key => (h.structs key).trans (h'.structs key).symm
  have hrelationships : g.relationships = g'.relationships :=
    KeyMap.ext_find? fun key => (h.relationships key).trans (h'.relationships key).symm
  have hentities : g.entities = g'.entities :=
    KeyMap.ext_find? fun key => (h.entities key).trans (h'.entities key).symm
  have hfindings : g.findings = g'.findings :=
    eq_of_ascending hordered hordered' fun f => by rw [h.findings, h'.findings, hfound]
  cases g
  cases g'
  simp only [ClassModels.mk.injEq]
  exact ⟨henums, hstructs, hrelationships, hentities, hfindings⟩

/-- Runs on snapshots of the same outline give the same. -/
theorem Snapshot.SharesOutline.run_eq {s s' : Snapshot} (h : s.SharesOutline s') (config : Config)
    (options options' : RunOptions) :
    ClassModels.ofSnapshot config options' s' = ClassModels.ofSnapshot config options s := by
  have hgiven := generated_ofSnapshot config s options
  have hother := generated_ofSnapshot config s' options'
  rw [h.catalog_eq] at hother
  exact hother.unique hgiven (fun _ => h.mem_found config) (ascending_findings ..)
    (ascending_findings ..)

/-- A run shows nothing of the order of definitions but which one of each name is the first: put in
another order in which the definitions of one name come one after another as before, a snapshot gives
the same classes and findings. It shows nothing of the other definitions but that a name comes
again. -/
theorem order_does_not_show (config : Config) (options options' : RunOptions) (s s' : Snapshot) :
    (s.Rearranges s' →
      ClassModels.ofSnapshot config options' s' = ClassModels.ofSnapshot config options s) ∧
    (s.SharesOutline s' →
      ClassModels.ofSnapshot config options' s' = ClassModels.ofSnapshot config options s) :=
  ⟨fun h => h.sharesOutline.run_eq config options options',
    fun h => h.run_eq config options options'⟩

/-- Three definitions of structs, two of them under one name. -/
def twoBoxes : Snapshot where
  structs := [
    { name := "Box", attributes := [{ name := "size", typeName := "long" }] },
    { name := "Box", attributes := [{ name := "weight", typeName := "float" }] },
    { name := "Bag" }]

/-- The same definitions, those of the other name first. -/
def bagFirst : Snapshot where
  structs := [
    { name := "Bag" },
    { name := "Box", attributes := [{ name := "size", typeName := "long" }] },
    { name := "Box", attributes := [{ name := "weight", typeName := "float" }] }]

theorem twoBoxes_rearranges : twoBoxes.Rearranges bagFirst where
  enums := ⟨.refl _, fun _ => rfl⟩
  structs := by
    refine ⟨by decide, fun key => ?_⟩
    by_cases hbox : "Box" = key
    · subst hbox
      decide
    · by_cases hbag : "Bag" = key
      · subst hbag
        decide
      · simp [twoBoxes, bagFirst, hbox, hbag]
  entities := ⟨.refl _, fun _ => rfl⟩
  relationships := ⟨.refl _, fun _ => rfl⟩

/-- Lists in different orders give the same. -/
theorem bag_may_come_first :
    twoBoxes ≠ bagFirst ∧
      ClassModels.ofSnapshot {} {} bagFirst = ClassModels.ofSnapshot {} {} twoBoxes :=
  ⟨by decide, (order_does_not_show {} {} {} twoBoxes bagFirst).1 twoBoxes_rearranges⟩

end TypeCatalog
