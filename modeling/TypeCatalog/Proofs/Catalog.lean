import TypeCatalog.Catalog

/-!
What a catalog of a snapshot holds: under each name the first definition of that name, which for
the root type may have got a description. Main statements: `find?_indexByName`,
`found_indexByName`, `find?_entities`, `generates_ofSnapshot` and `named_ofSnapshot`.
-/

namespace TypeCatalog.Catalog

/-- Of several definitions of a name the first is indexed. -/
theorem find?_indexByName {α : Type} (name : α → String) (kind key : String) (l : List α)
    (index : KeyMap String α) :
    (indexByName name kind l index).1.find? key =
      (index.find? key).or (l.find? fun d => name d = key) := by
  induction l generalizing index with
  | nil => simp [indexByName]
  | cons d rest ih =>
    rw [indexByName]
    by_cases hk : index.contains (name d) = true
    · simp only [hk, if_true, ih]
      by_cases hn : name d = key
      · obtain ⟨kept, hkept⟩ := Option.isSome_iff_exists.1 hk
        simp [← hn, hkept]
      · simp [hn]
    · simp only [hk, Bool.false_eq_true, if_false, ih, KeyMap.find?_insert]
      by_cases hn : name d = key
      · have hnone : index.find? key = none := by simpa [KeyMap.contains, hn] using hk
        simp [hn, hnone]
      · simp [hn, Ne.symm hn]

/-- What is found of a name that several definitions of one kind have. -/
def repeated (kind key : String) : Finding :=
  ⟨.conflict, key, key, "duplicate " ++ kind ++ " definition, keeping the first"⟩

/-- Found are the names of all definitions that are not indexed, be it because the name was in the
index or because another definition had it first. -/
theorem found_indexByName {α : Type} (name : α → String) (kind : String) (l : List α)
    (index : KeyMap String α) (f : Finding) :
    f ∈ (indexByName name kind l index).2 ↔ ∃ key, f = repeated kind key ∧
      (if index.contains key then 1 else 2) ≤ (l.filter fun d => name d = key).length := by
  induction l generalizing index with
  | nil =>
    refine iff_of_false List.not_mem_nil fun ⟨key, _, hcount⟩ => ?_
    rw [List.filter_nil, List.length_nil] at hcount
    split at hcount <;> omega
  | cons d rest ih =>
    rw [indexByName]
    by_cases hk : index.contains (name d) = true
    · simp only [hk, if_true, List.mem_cons, ih]
      constructor
      · rintro (rfl | ⟨key, rfl, hcount⟩)
        · exact ⟨name d, rfl, by simp [hk]⟩
        · have hmore := ((List.sublist_cons_self d rest).filter fun d => name d = key).length_le
          exact ⟨key, rfl, Nat.le_trans hcount hmore⟩
      · rintro ⟨key, rfl, hcount⟩
        by_cases hn : name d = key
        · exact .inl (hn ▸ rfl)
        · exact .inr ⟨key, rfl, by simpa [hn] using hcount⟩
    · simp only [hk, Bool.false_eq_true, if_false, ih, KeyMap.contains_insert]
      refine exists_congr fun key => and_congr_right fun _ => ?_
      by_cases hn : name d = key
      · subst hn
        simp [hk]
      · simp [hn, Ne.symm hn]

theorem find?_withRootDescription (c : Config) (entities : KeyMap String EntityType)
    (key : String) : (withRootDescription c entities).find? key =
      if key = c.rootType then (entities.find? key).map (describeRoot c)
      else entities.find? key := by
  rw [withRootDescription]
  by_cases hk : key = c.rootType
  · subst hk
    cases hr : entities.find? c.rootType <;> simp [hr, KeyMap.find?_insert]
  · cases entities.find? c.rootType <;> simp [hk, KeyMap.find?_insert]

@[simp] theorem describeRoot_name (c : Config) (root : EntityType) :
    (describeRoot c root).name = root.name := by
  rw [describeRoot]
  split <;> rfl

@[simp] theorem describeRoot_superTypes (config : Config) (d : EntityType) :
    (describeRoot config d).superTypes = d.superTypes := by
  rw [describeRoot]
  split <;> rfl

section
variable {config : Config} {snapshot : Snapshot}

/-- What is filed under a name is the first definition of that name, described if it is the root. -/
theorem find?_entities (name : String) :
    (ofSnapshot config snapshot).1.entities.find? name =
      (snapshot.entities.find? fun d => d.name = name).map fun d =>
        if name = config.rootType then describeRoot config d else d := by
  have hentities : (ofSnapshot config snapshot).1.entities =
      withRootDescription config (indexByName (·.name) "entity" snapshot.entities ∅).1 := rfl
  rw [hentities, find?_withRootDescription, find?_indexByName, KeyMap.find?_empty, Option.none_or]
  split
  · rfl
  · exact Option.map_id'.symm

theorem contains_entities (name : String) :
    (ofSnapshot config snapshot).1.entities.contains name =
      snapshot.entities.any fun d => d.name = name := by
  rw [KeyMap.contains, find?_entities, Option.isSome_map, Bool.eq_iff_iff, List.find?_isSome,
    List.any_eq_true]

/-- An entity is filed under its own name. -/
theorem name_of_find? {name : String} {d : EntityType}
    (h : (ofSnapshot config snapshot).1.entities.find? name = some d) : d.name = name := by
  rw [find?_entities] at h
  obtain ⟨first, hfirst, rfl⟩ := Option.map_eq_some_iff.1 h
  have hname : first.name = name := by simpa using List.find?_some hfirst
  split
  · rw [describeRoot_name, hname]
  · exact hname

theorem superTypes_ofSnapshot (name : String) :
    (ofSnapshot config snapshot).1.superTypes name =
      (snapshot.entities.find? fun d => d.name = name).elim [] (·.superTypes) := by
  rw [superTypes, find?_entities]
  cases snapshot.entities.find? fun d => d.name = name with
  | none => rfl
  | some d =>
    rw [Option.map_some, Option.elim_some, Option.elim_some]
    split
    · exact describeRoot_superTypes config d
    · rfl

/-- A description does not change whether an entity is generated. -/
@[simp] theorem includes_describeRoot (root : EntityType) :
    config.includes (describeRoot config root).toTypeHeader = config.includes root.toTypeHeader := by
  rw [describeRoot]
  split <;> rfl

/-- An entity is generated if the first definition of its name is included. -/
theorem generates_ofSnapshot (name : String) :
    (ofSnapshot config snapshot).1.generates name =
      (snapshot.entities.find? fun d => d.name = name).any fun d =>
        config.includes d.toTypeHeader := by
  have hconfig : (ofSnapshot config snapshot).1.config = config := rfl
  rw [generates, hconfig, find?_entities, Option.any_map]
  refine congrArg (Option.any · _) (funext fun d => ?_)
  split <;> simp only [includes_describeRoot]

end

theorem name_of_indexByName {α : Type} (name : α → String) {kind key : String} {l : List α}
    {d : α} (h : (indexByName name kind l ∅).1.find? key = some d) : name d = key := by
  rw [find?_indexByName, KeyMap.find?_empty, Option.none_or] at h
  simpa using List.find?_some h

/-- Every definition is filed under its own name. -/
structure Named (c : Catalog) : Prop where
  enums : ∀ key d, c.enums.find? key = some d → d.name = key
  structs : ∀ key d, c.structs.find? key = some d → d.name = key
  entities : ∀ key d, c.entities.find? key = some d → d.name = key
  relationships : ∀ key d, c.relationships.find? key = some d → d.name = key

theorem named_ofSnapshot (config : Config) (snapshot : Snapshot) :
    (ofSnapshot config snapshot).1.Named where
  enums _ _ h := name_of_indexByName (fun d : EnumType => d.name) h
  structs _ _ h := name_of_indexByName (fun d : StructType => d.name) h
  entities _ _ h := name_of_find? h
  relationships _ _ h := name_of_indexByName (fun d : RelationshipType => d.name) h

end TypeCatalog.Catalog
