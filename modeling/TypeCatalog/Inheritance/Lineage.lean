import TypeCatalog.Inheritance.Path

/-!
The lineage of an entity: itself and everything above it, each name once, in depth-first order
with the super-types of a type in declared order. Names without a definition are in it too, and
the walk goes through the root type like through any other. Main statement: `nodup_lineage`.
-/

namespace TypeCatalog.Catalog

/-- The names reached from a stack of names, without those already visited. -/
def lineageFrom (c : Catalog) (visited : List String) : List String → List String
  | [] => []
  | name :: rest =>
    if _hv : name ∈ visited then lineageFrom c visited rest
    else
      match _h : c.entities.find? name with
      | none => name :: lineageFrom c (visited ++ [name]) rest
      | some d => name :: lineageFrom c (visited ++ [name]) (d.superTypes ++ rest)
termination_by stack => (c.offPath visited, stack.length)
decreasing_by
  · exact Prod.Lex.right _ (by simp)
  · exact Prod.Lex.right' _ (offPath_append_le c visited name) (by simp)
  · exact Prod.Lex.left _ _ (offPath_append_lt _h _hv)

theorem lineageFrom_nil (c : Catalog) (visited : List String) : c.lineageFrom visited [] = [] := by
  rw [lineageFrom]

/-- A name that was not visited is followed by what is above it, and then by the rest. -/
theorem lineageFrom_cons (c : Catalog) (visited : List String) (name : String)
    (rest : List String) :
    c.lineageFrom visited (name :: rest) =
      if name ∈ visited then c.lineageFrom visited rest
      else name :: c.lineageFrom (visited ++ [name]) (c.superTypes name ++ rest) := by
  rw [lineageFrom]
  split
  next => rfl
  next =>
    split
    next hd => rw [superTypes, hd, Option.elim_none, List.nil_append]
    next hd => rw [superTypes, hd, Option.elim_some]

/-- An entity and everything above it. -/
def lineage (c : Catalog) (name : String) : List String := c.lineageFrom [] [name]

theorem not_mem_visited_of_mem_lineageFrom {c : Catalog} {visited stack : List String}
    {n : String} (h : n ∈ c.lineageFrom visited stack) : n ∉ visited := by
  fun_induction lineageFrom c visited stack with
  | case1 => simp at h
  | case2 visited name rest hv ih => exact ih h
  | case3 visited name rest hv hd ih =>
    rcases List.mem_cons.1 h with rfl | h
    · exact hv
    · exact fun hm => ih h (List.mem_append_left _ hm)
  | case4 visited name rest hv d hd ih =>
    rcases List.mem_cons.1 h with rfl | h
    · exact hv
    · exact fun hm => ih h (List.mem_append_left _ hm)

theorem nodup_lineageFrom (c : Catalog) (visited stack : List String) :
    (c.lineageFrom visited stack).Nodup := by
  fun_induction lineageFrom c visited stack with
  | case1 => exact .nil
  | case2 visited name rest hv ih => exact ih
  | case3 visited name rest hv hd ih =>
    refine List.nodup_cons.2 ⟨fun hm => ?_, ih⟩
    exact not_mem_visited_of_mem_lineageFrom hm (by simp)
  | case4 visited name rest hv d hd ih =>
    refine List.nodup_cons.2 ⟨fun hm => ?_, ih⟩
    exact not_mem_visited_of_mem_lineageFrom hm (by simp)

/-- No name stands twice in a lineage. -/
theorem nodup_lineage (c : Catalog) (name : String) : (c.lineage name).Nodup :=
  c.nodup_lineageFrom [] [name]

end TypeCatalog.Catalog
