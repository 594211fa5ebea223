import TypeCatalog.Class.Property

/-!
What a set of properties holds after inserting a list of them: under each name what was there
before, or else the first property of that name in the list. Main statements: `get?_insertAll`, and
`get?_made` for a new set of properties that are made one by one.
-/

namespace TypeCatalog.PropertySet

@[simp] theorem get?_empty (name : String) : (∅ : PropertySet).get? name = none := rfl

theorem get?_insert (s : PropertySet) (owner : String) (p : Property) (name : String) :
    (s.insert owner p).1.get? name =
      (s.get? name).or (if p.name = name then some p else none) := by
  rw [insert]
  cases hp : s.get? p.name with
  | some kept =>
    by_cases hn : p.name = name
    · simp [← hn, hp]
    · simp [hn]
  | none =>
    have hwrite : (⟨s.byName.insert p.name p⟩ : PropertySet).get? name =
        if name = p.name then some p else s.get? name := KeyMap.find?_insert ..
    rw [hwrite]
    by_cases hn : p.name = name
    · simp [← hn, hp]
    · simp [hn, Ne.symm hn]

/-- The first property of a name stays, wherever it came from. -/
theorem get?_insertAll (owner name : String) (l : List Property) (s : PropertySet) :
    (insertAll owner s l).1.get? name =
      (s.get? name).or (l.find? fun p => p.name = name) := by
  induction l generalizing s with
  | nil => simp [insertAll]
  | cons p rest ih =>
    rw [insertAll, ih, get?_insert, Option.or_assoc]
    by_cases hn : p.name = name
    · simp [hn]
    · simp [hn]

variable {α : Type} {make : α → Property × List Finding}

/-- A new set has under each name what the first of the things makes that make a property of that
name. -/
theorem get?_made (owner name : String) (l : List α) :
    (insertMade owner ∅ (l.map make)).1.get? name =
      (l.find? fun a => (make a).1.name = name).map fun a => (make a).1 := by
  rw [insertMade, get?_insertAll, List.map_map, List.find?_map, get?_empty, Option.none_or]
  rfl

theorem contains_made {owner name : String} {l : List α} :
    (insertMade owner ∅ (l.map make)).1.contains name = true ↔
      ∃ a ∈ l, (make a).1.name = name := by
  have hcontains : (insertMade owner ∅ (l.map make)).1.contains name =
      ((insertMade owner ∅ (l.map make)).1.get? name).isSome := rfl
  rw [hcontains, get?_made, Option.isSome_map, List.find?_isSome]
  simp only [decide_eq_true_eq]

/-- Whatever is listed in a set stands under some name. -/
theorem mem_toList {s : PropertySet} {p : Property} :
    p ∈ s.toList ↔ ∃ name, s.get? name = some p :=
  KeyMap.mem_values_iff

/-- A property of a set was there before or is one of those that were inserted. -/
theorem mem_insertMade {owner : String} {s : PropertySet} {made : List (Property × List Finding)}
    {p : Property} (h : p ∈ (s.insertMade owner made).1.toList) :
    p ∈ s.toList ∨ p ∈ made.map (·.1) := by
  obtain ⟨name, hname⟩ := mem_toList.1 h
  rw [insertMade, get?_insertAll] at hname
  cases hs : s.get? name with
  | some kept =>
    rw [hs, Option.some_or] at hname
    exact .inl (mem_toList.2 ⟨name, hs.trans hname⟩)
  | none =>
    rw [hs, Option.none_or] at hname
    exact .inr (List.mem_of_find?_eq_some hname)

/-- A new set has no properties but those that were made for it. -/
theorem exists_of_mem_made {owner : String} {l : List α} {p : Property}
    (h : p ∈ (insertMade owner ∅ (l.map make)).1.toList) : ∃ a ∈ l, (make a).1 = p := by
  rcases mem_insertMade h with h | h
  · obtain ⟨name, hname⟩ := mem_toList.1 h
    cases hname
  · rw [List.map_map] at h
    exact List.mem_map.1 h

end TypeCatalog.PropertySet
