import TypeCatalog.Catalog

/-!
Paths in the inheritance graph. A path never names a type twice, so that `offPath`, the number of
defined types that are not on the path, bounds the depth of a walk (`offPath_append_lt`).
-/

namespace TypeCatalog.Catalog

/-- The number of defined entities that are not on a path. -/
def offPath (c : Catalog) (path : List String) : Nat :=
  (c.entities.keys.filter fun n => n ∉ path).length

theorem offPath_append (c : Catalog) (path : List String) (name : String) :
    c.offPath (path ++ [name]) =
      ((c.entities.keys.filter fun n => n ∉ path).filter fun n => n ≠ name).length := by
  rw [offPath, List.filter_filter]
  congr 1
  refine List.filter_congr fun n _ => ?_
  simp [and_comm]

/-- A path that is entered by a further defined type leaves fewer types off it. -/
theorem offPath_append_lt {c : Catalog} {path : List String} {name : String} {d : EntityType}
    (hd : c.entities.find? name = some d) (hp : name ∉ path) :
    c.offPath (path ++ [name]) < c.offPath path := by
  have hk : name ∈ c.entities.keys := by
    rw [KeyMap.mem_keys_iff, KeyMap.contains, hd]; rfl
  rw [offPath_append]
  refine List.length_filter_lt_length_iff_exists.2 ⟨name, ?_, by simp⟩
  simp [List.mem_filter, hk, hp]

/-- A longer path leaves no more types off it. -/
theorem offPath_append_le (c : Catalog) (path : List String) (name : String) :
    c.offPath (path ++ [name]) ≤ c.offPath path := by
  rw [offPath_append]
  exact List.length_filter_le _ _

end TypeCatalog.Catalog
