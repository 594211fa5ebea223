import Mathlib.Data.List.Sort
import TypeCatalog.KeyMap

/-!
Maps and their look-ups. A map is told by what is found under its keys (`ext_find?`), and a map of
entries with different keys holds just these entries (`find?_ofList`). A map and a set are those of
their own listings (`ofList_entries` and `KeySet.ofKeys_keys`).
-/

namespace TypeCatalog.KeyMap

theorem nodup_keys {κ ν : Type} [Ord κ] [Std.LawfulEqOrd κ] (m : KeyMap κ ν) : m.keys.Nodup :=
  m.ascending_keys.imp fun hlt he => by simp [he, Std.ReflCmp.compare_self] at hlt

/-- Of a list of keys those that are held, told by what is held there. -/
theorem map_filter_contains {κ ν μ : Type} [Ord κ] {m : KeyMap κ ν} {f : ν → μ} {g : κ → μ}
    (hfound : ∀ k v, m.find? k = some v → f v = g k) (l : List κ) :
    (l.filter m.contains).map g = l.filterMap fun k => (m.find? k).map f := by
  rw [← List.filterMap_eq_map, List.filterMap_filter]
  refine List.filterMap_congr fun k _ => ?_
  rw [contains]
  cases hfind : m.find? k with
  | none => rfl
  | some v => exact congrArg some (hfound k v hfind).symm

theorem perm_put {κ ν : Type} [Ord κ] {k : κ} {v : ν} :
    ∀ {l : List (κ × ν)}, lookup k l = none → (put k v l).Perm ((k, v) :: l)
  | [], _ => .refl _
  | e :: rest, h => by
    rw [lookup] at h
    rw [put]
    cases hc : compare k e.1 with
    | lt => exact .refl _
    | eq => simp [hc] at h
    | gt =>
      rw [hc] at h
      exact ((perm_put h).cons e).trans (.swap ..)

theorem eq_empty_of_isEmpty {κ ν : Type} [Ord κ] {m : KeyMap κ ν} (h : m.isEmpty = true) :
    m = ∅ := by
  obtain ⟨entries, hascending⟩ := m
  obtain rfl := List.isEmpty_iff.1 h
  rfl

theorem length_put {κ ν : Type} [Ord κ] {k : κ} {v : ν} : ∀ l : List (κ × ν),
    (put k v l).length = if (lookup k l).isSome then l.length else l.length + 1
  | [] => rfl
  | e :: rest => by
    rw [put, lookup]
    cases compare k e.1 with
    | lt => rfl
    | eq => rfl
    | gt =>
      simp only [List.length_cons, length_put rest]
      split <;> rfl

variable {κ ν : Type} [Ord κ] [Std.TransOrd κ] [Std.LawfulEqOrd κ]

/-- A write adds an entry unless there is one under its key already. -/
theorem size_insert (m : KeyMap κ ν) (k : κ) (v : ν) :
    (m.insert k v).size = if m.contains k then m.size else m.size + 1 :=
  length_put m.entries

/-- Maps in which the same is found under every key are equal. -/
theorem ext_find? {m m' : KeyMap κ ν} (h : ∀ k, m.find? k = m'.find? k) : m = m' := by
  have : Std.Irrefl fun a b : κ × ν => compare a.1 b.1 = .lt :=
    ⟨fun a ha => by simp [Std.ReflCmp.compare_self] at ha⟩
  have : Std.Antisymm fun a b : κ × ν => compare a.1 b.1 = .lt :=
    ⟨fun a b hab hba => by
      have := Std.TransCmp.lt_trans hab hba
      simp [Std.ReflCmp.compare_self] at this⟩
  have hentries : m.entries = m'.entries :=
    m.ascending.eq_of_mem_iff m'.ascending fun e => by
      rw [← Prod.eta e, mem_entries_iff, mem_entries_iff, h]
  cases m
  cases m'
  cases hentries
  rfl

/-- A write under a new key adds its value to those that are there. -/
theorem perm_values_insert {m : KeyMap κ ν} {k : κ} {v : ν} (h : m.find? k = none) :
    (m.insert k v).values.Perm (v :: m.values) :=
  (perm_put h).map Prod.snd

/-- Writes under other keys do not change what is found. -/
theorem find?_foldl_insert_of_notMem [DecidableEq κ] {l : List (κ × ν)} {k : κ}
    (h : k ∉ l.map (·.1)) (m : KeyMap κ ν) :
    (l.foldl (fun m e => m.insert e.1 e.2) m).find? k = m.find? k := by
  induction l generalizing m with
  | nil => rfl
  | cons e l ih =>
    rw [List.map_cons, List.mem_cons, not_or] at h
    rw [List.foldl_cons, ih h.2, find?_insert, if_neg h.1]

/-- Of several writes under one key the last one is found. -/
theorem find?_foldl_insert_last [DecidableEq κ] {before after : List (κ × ν)} {k : κ} {v : ν}
    (h : k ∉ after.map (·.1)) (m : KeyMap κ ν) :
    ((before ++ (k, v) :: after).foldl (fun m e => m.insert e.1 e.2) m).find? k = some v := by
  rw [List.foldl_append, List.foldl_cons, find?_foldl_insert_of_notMem h, find?_insert, if_pos rfl]

/-- Of entries with different keys each is found. -/
theorem find?_ofList [DecidableEq κ] {l : List (κ × ν)} (hkeys : (l.map (·.1)).Nodup) {k : κ}
    {v : ν} : (ofList l).find? k = some v ↔ (k, v) ∈ l := by
  refine ⟨mem_of_find?_ofList, fun hmem => ?_⟩
  obtain ⟨before, after, rfl⟩ := List.append_of_mem hmem
  have hafter : k ∉ after.map (·.1) := by
    rw [List.map_append, List.map_cons, List.nodup_append] at hkeys
    exact (List.nodup_cons.1 hkeys.2.1).1
  exact find?_foldl_insert_last hafter empty

theorem ofList_entries [DecidableEq κ] (m : KeyMap κ ν) : ofList m.entries = m :=
  ext_find? fun k => Option.ext fun v => by rw [find?_ofList m.nodup_keys, mem_entries_iff]

end TypeCatalog.KeyMap

namespace TypeCatalog.KeySet
variable {κ : Type} [Ord κ] [Std.TransOrd κ] [Std.LawfulEqOrd κ]

theorem ofKeys_keys [DecidableEq κ] (s : KeySet κ) : KeySet.ofKeys s.keys = s := by
  have hentries : KeySet.ofKeys s.keys = KeyMap.ofList s.entries := by
    rw [KeySet.ofKeys, KeyMap.keys, List.foldl_map]
    rfl
  rw [hentries, KeyMap.ofList_entries]

/-- Sets with the same elements are equal. -/
theorem ext_contains {s t : KeySet κ} (h : ∀ k, s.contains k = true ↔ t.contains k = true) :
    s = t := by
  refine KeyMap.ext_find? fun k => ?_
  have hk := h k
  rw [KeyMap.contains, KeyMap.contains] at hk
  cases hs : s.find? k <;> cases ht : t.find? k <;> simp_all

/-- What is in a set already may be added to it. -/
theorem foldl_add_of_contains [DecidableEq κ] {l : List κ} {s : KeySet κ}
    (h : ∀ k ∈ l, s.contains k = true) : l.foldl add s = s := by
  refine ext_contains fun k => ?_
  rw [contains_foldl_add]
  exact ⟨fun hk => hk.elim id (h k), .inl⟩

end TypeCatalog.KeySet
