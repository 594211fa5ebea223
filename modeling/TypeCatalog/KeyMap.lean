/-!
Finite maps and finite sets as ascending lists. A `KeyMap` keeps its entries in strictly
ascending key order, so that two maps are equal exactly when they hold the same entries, and
every listing of a map comes out in the order of its keys; for text that is code point order.
Main statements: `mem_entries_iff` (an entry is what a look-up finds) and `find?_insert` (a write
changes its own key only).
-/

namespace TypeCatalog

/-- A finite map from `κ` to `ν`, listed in strictly ascending key order. -/
structure KeyMap (κ : Type) [Ord κ] (ν : Type) where
  entries : List (κ × ν)
  ascending : entries.Pairwise fun a b => compare a.1 b.1 = .lt

/-- A finite set of keys. -/
abbrev KeySet (κ : Type) [Ord κ] : Type := KeyMap κ Unit

namespace KeyMap

section Basic
variable {κ ν μ : Type} [Ord κ]

instance [DecidableEq κ] [DecidableEq ν] : DecidableEq (KeyMap κ ν) := fun a b =>
  if h : a.entries = b.entries then
    .isTrue (by cases a; cases b; cases h; rfl)
  else
    .isFalse fun e => h (by rw [e])

instance [Repr κ] [Repr ν] : Repr (KeyMap κ ν) := ⟨fun m n => reprPrec m.entries n⟩

/-- The map without entries. -/
def empty : KeyMap κ ν := ⟨[], .nil⟩

instance : EmptyCollection (KeyMap κ ν) := ⟨empty⟩

instance : Inhabited (KeyMap κ ν) := ⟨empty⟩

/-- The value under `k` in an ascending list; the search stops at the first greater key. -/
def lookup (k : κ) : List (κ × ν) → Option ν
  | [] => none
  | e :: rest =>
    match compare k e.1 with
    | .lt => none
    | .eq => some e.2
    | .gt => lookup k rest

/-- The value under `k`. -/
def find? (m : KeyMap κ ν) (k : κ) : Option ν := lookup k m.entries

/-- Whether the map has a value under `k`. -/
def contains (m : KeyMap κ ν) (k : κ) : Bool := (m.find? k).isSome

/-- The keys, ascending. -/
def keys (m : KeyMap κ ν) : List κ := m.entries.map (·.1)

theorem ascending_keys (m : KeyMap κ ν) : m.keys.Pairwise fun a b => compare a b = .lt := by
  rw [keys, List.pairwise_map]
  exact m.ascending

/-- The values, in the order of their keys. -/
def values (m : KeyMap κ ν) : List ν := m.entries.map (·.2)

/-- The number of entries. -/
def size (m : KeyMap κ ν) : Nat := m.entries.length

/-- Whether there are no entries. -/
def isEmpty (m : KeyMap κ ν) : Bool := m.entries.isEmpty

/-- The entries that satisfy `keep`. -/
def filter (keep : κ → ν → Bool) (m : KeyMap κ ν) : KeyMap κ ν :=
  ⟨m.entries.filter fun e => keep e.1 e.2, m.ascending.filter _⟩

/-- The map with `f` applied to every value. -/
def mapValues (f : ν → μ) (m : KeyMap κ ν) : KeyMap κ μ :=
  ⟨m.entries.map fun e => (e.1, f e.2), by
    rw [List.pairwise_map]; exact m.ascending⟩

/-- Writes `v` under `k` in an ascending list. -/
def put (k : κ) (v : ν) : List (κ × ν) → List (κ × ν)
  | [] => [(k, v)]
  | e :: rest =>
    match compare k e.1 with
    | .lt => (k, v) :: e :: rest
    | .eq => (k, v) :: rest
    | .gt => e :: put k v rest

theorem mem_put {k : κ} {v : ν} {e : κ × ν} :
    ∀ {l : List (κ × ν)}, e ∈ put k v l → e = (k, v) ∨ e ∈ l
  | [], h => by simpa [put] using h
  | d :: rest, h => by
    unfold put at h
    split at h
    · simpa using h
    · rcases List.mem_cons.1 h with h | h
      · exact .inl h
      · exact .inr (List.mem_cons_of_mem _ h)
    · rcases List.mem_cons.1 h with h | h
      · exact .inr (h ▸ List.mem_cons_self)
      · exact (mem_put h).imp id (List.mem_cons_of_mem _)

@[simp] theorem find?_empty (k : κ) : (∅ : KeyMap κ ν).find? k = none := rfl

@[simp] theorem contains_empty (k : κ) : (∅ : KeyMap κ ν).contains k = false := rfl

end Basic

section Ordered
variable {κ ν : Type} [Ord κ] [Std.TransOrd κ] [Std.LawfulEqOrd κ]

theorem put_ascending {k : κ} {v : ν} :
    ∀ {l : List (κ × ν)}, (l.Pairwise fun a b => compare a.1 b.1 = .lt) →
      (put k v l).Pairwise fun a b => compare a.1 b.1 = .lt
  | [], _ => by simp [put]
  | d :: rest, h => by
    obtain ⟨hd, hr⟩ := List.pairwise_cons.1 h
    unfold put
    split
    next hlt =>
      refine List.pairwise_cons.2 ⟨fun e he => ?_, h⟩
      rcases List.mem_cons.1 he with rfl | he
      · exact hlt
      · exact Std.TransCmp.lt_trans hlt (hd e he)
    next heq =>
      have hk : k = d.1 := Std.LawfulEqCmp.eq_of_compare heq
      exact List.pairwise_cons.2 ⟨fun e he => hk ▸ hd e he, hr⟩
    next hgt =>
      refine List.pairwise_cons.2 ⟨fun e he => ?_, put_ascending hr⟩
      rcases mem_put he with rfl | he
      · exact Std.OrientedCmp.gt_iff_lt.1 hgt
      · exact hd e he

/-- The map with `v` under `k`, whatever was there before. -/
def insert (m : KeyMap κ ν) (k : κ) (v : ν) : KeyMap κ ν :=
  ⟨put k v m.entries, put_ascending m.ascending⟩

/-- The map of a list of entries; of several under one key the last counts. -/
def ofList (l : List (κ × ν)) : KeyMap κ ν :=
  l.foldl (fun m e => m.insert e.1 e.2) empty

/-- All entries of both maps; under a common key the second map counts. -/
def union (a b : KeyMap κ ν) : KeyMap κ ν :=
  b.entries.foldl (fun m e => m.insert e.1 e.2) a

theorem lookup_put (k k' : κ) (v : ν) :
    ∀ l : List (κ × ν), lookup k' (put k v l) =
      if compare k' k = .eq then some v else lookup k' l
  | [] => by
    simp only [put, lookup]
    cases compare k' k <;> simp
  | d :: rest => by
    have ih := lookup_put k k' v rest
    simp only [put]
    cases hk : compare k d.1 with
    | lt =>
      simp only [lookup]
      cases hc : compare k' k with
      | lt => simp [Std.TransCmp.lt_trans hc hk]
      | eq => simp
      | gt => simp
    | eq =>
      obtain rfl : k = d.1 := Std.LawfulEqCmp.eq_of_compare hk
      simp only [lookup]
      cases hc : compare k' d.1 <;> simp
    | gt =>
      simp only [lookup, ih]
      cases hc : compare k' d.1 with
      | lt =>
        have : compare k' k = .lt :=
          Std.TransCmp.lt_trans hc (Std.OrientedCmp.gt_iff_lt.1 hk)
        simp [this]
      | eq =>
        obtain rfl : k' = d.1 := Std.LawfulEqCmp.eq_of_compare hc
        simp [Std.OrientedCmp.gt_iff_lt.1 hk]
      | gt => simp

/-- A write under `k` is found under `k` and nowhere else. -/
theorem find?_insert [DecidableEq κ] (m : KeyMap κ ν) (k k' : κ) (v : ν) :
    (m.insert k v).find? k' = if k' = k then some v else m.find? k' := by
  simp only [find?, insert, lookup_put]
  by_cases h : k' = k
  · simp [h, Std.ReflCmp.compare_self]
  · simp [h, Std.LawfulEqCmp.compare_eq_iff_eq]

theorem mem_iff_lookup {k : κ} {v : ν} :
    ∀ {l : List (κ × ν)}, (l.Pairwise fun a b => compare a.1 b.1 = .lt) →
      ((k, v) ∈ l ↔ lookup k l = some v)
  | [], _ => by simp [lookup]
  | d :: rest, h => by
    obtain ⟨hd, hr⟩ := List.pairwise_cons.1 h
    have ih := mem_iff_lookup (k := k) (v := v) hr
    simp only [lookup, List.mem_cons]
    cases hc : compare k d.1 with
    | lt =>
      constructor
      · rintro (rfl | hm)
        · simp [Std.ReflCmp.compare_self] at hc
        · have := Std.TransCmp.lt_trans (hd _ hm) hc
          simp [Std.ReflCmp.compare_self] at this
      · intro hn; cases hn
    | eq =>
      obtain rfl : k = d.1 := Std.LawfulEqCmp.eq_of_compare hc
      constructor
      · rintro (h | hm)
        · rw [← h]
        · have := hd _ hm
          simp [Std.ReflCmp.compare_self] at this
      · intro hs
        exact .inl (by cases d; simp_all)
    | gt =>
      have hne : ((k, v) = d) = False := by
        simp only [eq_iff_iff, iff_false]
        rintro rfl
        simp [Std.ReflCmp.compare_self] at hc
      simp [hne, ih]

/-- An entry of the map is what a look-up of its key finds. -/
theorem mem_entries_iff {m : KeyMap κ ν} {k : κ} {v : ν} :
    (k, v) ∈ m.entries ↔ m.find? k = some v :=
  mem_iff_lookup m.ascending

theorem mem_keys_iff {m : KeyMap κ ν} {k : κ} : k ∈ m.keys ↔ m.contains k = true := by
  simp only [keys, contains, List.mem_map, Option.isSome_iff_exists]
  constructor
  · rintro ⟨⟨a, v⟩, hm, rfl⟩
    exact ⟨v, mem_entries_iff.1 hm⟩
  · rintro ⟨v, hv⟩
    exact ⟨(k, v), mem_entries_iff.2 hv, rfl⟩

/-- A value of the map is what a look-up of some key finds. -/
theorem mem_values_iff {m : KeyMap κ ν} {v : ν} : v ∈ m.values ↔ ∃ k, m.find? k = some v := by
  simp only [values, List.mem_map, ← mem_entries_iff, Prod.exists, exists_eq_right]

/-- A filtered map has the values that are kept under their keys. -/
theorem find?_filter (keep : κ → ν → Bool) (m : KeyMap κ ν) (k : κ) :
    (m.filter keep).find? k = (m.find? k).filter (keep k) := by
  refine Option.ext fun v => ?_
  have hmem : (k, v) ∈ (m.filter keep).entries ↔ (k, v) ∈ m.entries ∧ keep k v = true :=
    List.mem_filter
  rw [← mem_entries_iff, hmem, mem_entries_iff, Option.filter_eq_some_iff]

@[simp] theorem contains_insert [DecidableEq κ] (m : KeyMap κ ν) (k k' : κ) (v : ν) :
    (m.insert k v).contains k' = true ↔ k' = k ∨ m.contains k' = true := by
  rw [contains, find?_insert, contains]
  split <;> simp_all

/-- What is found after some writes was written or was there before. -/
theorem find?_foldl_insert [DecidableEq κ] {α : Type} (key : α → κ) (value : α → ν) {l : List α}
    {m : KeyMap κ ν} {k : κ} {v : ν}
    (h : (l.foldl (fun m a => m.insert (key a) (value a)) m).find? k = some v) :
    (∃ a ∈ l, key a = k ∧ value a = v) ∨ m.find? k = some v := by
  induction l generalizing m with
  | nil => exact .inr h
  | cons a l ih =>
    rcases ih h with ⟨b, hb, hkey⟩ | h
    · exact .inl ⟨b, List.mem_cons_of_mem _ hb, hkey⟩
    · rw [find?_insert] at h
      split at h
      next hk => exact .inl ⟨a, List.mem_cons_self, hk.symm, Option.some.inj h⟩
      next => exact .inr h

/-- What is found in the map of a list of entries is one of the entries. -/
theorem mem_of_find?_ofList [DecidableEq κ] {l : List (κ × ν)} {k : κ} {v : ν}
    (h : (ofList l).find? k = some v) : (k, v) ∈ l := by
  rcases find?_foldl_insert Prod.fst Prod.snd h with ⟨e, he, rfl, rfl⟩ | h
  · exact he
  · cases h

/-- A union has the keys of both maps. -/
theorem contains_union [DecidableEq κ] (a b : KeyMap κ ν) (k : κ) :
    (a.union b).contains k = true ↔ a.contains k = true ∨ b.contains k = true := by
  have folded : ∀ (l : List (κ × ν)) (m : KeyMap κ ν),
      (l.foldl (fun m e => m.insert e.1 e.2) m).contains k = true ↔
        m.contains k = true ∨ k ∈ l.map (·.1) := by
    intro l
    induction l with
    | nil => simp
    | cons e l ih =>
      intro m
      rw [List.foldl_cons, ih, contains_insert, List.map_cons, List.mem_cons]
      exact or_assoc.trans or_left_comm
  rw [union, folded, ← mem_keys_iff (m := b), keys]

end Ordered

end KeyMap

namespace KeySet
variable {κ : Type} [Ord κ] [Std.TransOrd κ] [Std.LawfulEqOrd κ]

/-- The set with `k` in it. -/
def add (s : KeySet κ) (k : κ) : KeySet κ := s.insert k ()

/-- The set of the elements of a list. -/
def ofKeys (l : List κ) : KeySet κ := l.foldl add ∅

theorem contains_add [DecidableEq κ] (s : KeySet κ) (k k' : κ) :
    (KeySet.add s k).contains k' = true ↔ k' = k ∨ s.contains k' = true :=
  KeyMap.contains_insert s k k' ()

theorem contains_foldl_add [DecidableEq κ] {l : List κ} {s : KeySet κ} {k : κ} :
    (l.foldl add s).contains k = true ↔ s.contains k = true ∨ k ∈ l := by
  induction l generalizing s with
  | nil => simp
  | cons a l ih =>
    rw [List.foldl_cons, ih, contains_add, List.mem_cons]
    exact or_assoc.trans or_left_comm

theorem contains_ofKeys [DecidableEq κ] (l : List κ) (k : κ) :
    (ofKeys l).contains k = true ↔ k ∈ l := by
  rw [ofKeys, contains_foldl_add]
  simp

end KeySet

end TypeCatalog
