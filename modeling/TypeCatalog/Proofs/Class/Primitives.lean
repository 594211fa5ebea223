import TypeCatalog.Class.Making
import TypeCatalog.Proofs.Searchability

/-!
How attributes of primitive types are indexed. Blanks in a raw type name do not matter to what the
name means, but they do to how the attribute is indexed: an attribute that says nothing about its
indexing is indexed by its primitive alone if there are none inside the container, and not at all
if there are some. Main statements: `ofSpelling?_of_ofRaw?`, `plainKind?_primitive` and
`indexed_unless_blank`.
-/

namespace TypeCatalog

/-! ### Spellings -/

namespace Primitive

/-- The raw name of a primitive. -/
def spelling : Primitive → String
  | .string => "string"
  | .boolean => "boolean"
  | .int => "int"
  | .long => "long"
  | .date => "date"
  | .float => "float"
  | .stringStringPair => "string,string"
  | .stringLongPair => "string,long"

/-- The index kind of plain attributes of a primitive type, where strings have the given one. Pairs
are not indexed. -/
def indexKind? (ofStrings : IndexKind) : Primitive → Option IndexKind
  | .string => some ofStrings
  | .boolean => some .boolean
  | .int | .long | .date | .float => some .numeric
  | .stringStringPair | .stringLongPair => none

variable {p : Primitive} {raw : String}

theorem ofSpelling?_eq_some : ofSpelling? raw = some p ↔ raw = p.spelling := by
  constructor
  · intro h
    unfold ofSpelling? at h
    split at h <;> cases h <;> rfl
  · rintro rfl
    cases p <;> rfl

theorem not_blank_spelling (p : Primitive) : p.spelling.toList.any Text.isBlank = false := by
  cases p <;> decide

/-- A raw name that means a primitive is its spelling exactly if no blank is in it. -/
theorem ofSpelling?_of_ofRaw? (h : ofRaw? raw = some p) :
    ofSpelling? raw = if raw.toList.any Text.isBlank then none else some p := by
  split
  · rename_i hblank
    cases hspelled : ofSpelling? raw with
    | none => rfl
    | some q =>
      rw [ofSpelling?_eq_some.1 hspelled, not_blank_spelling] at hblank
      cases hblank
  · rename_i hblank
    have hkept : Text.removeBlanks raw.toList = raw.toList := by
      simpa [Text.removeBlanks, List.filter_eq_self] using hblank
    rwa [ofRaw?, hkept, String.ofList_toList] at h

end Primitive

/-! ### Indexing -/

namespace Searchability
variable {owner : String} {ofStrings kind : IndexKind} {a : Attribute} {t : TargetType}
  {p : Primitive}

/-- A plain attribute of a primitive type is indexed like the primitive that its base name spells.
A `double` is none, but would be indexed all the same. -/
theorem plainKind?_primitive (ht : t.kind = .primitive) (hdouble : t.base ≠ "double") :
    plainKind? ofStrings t = (Primitive.ofSpelling? t.base).bind (·.indexKind? ofStrings) := by
  rw [plainKind?, ht]
  cases hp : Primitive.ofSpelling? t.base with
  | some p =>
    rw [Primitive.ofSpelling?_eq_some.1 hp]
    cases p <;> rfl
  | none =>
    have hother : ∀ p : Primitive, t.base ≠ p.spelling := fun p hbase => by
      rw [Primitive.ofSpelling?_eq_some.2 hbase] at hp
      cases hp
    have hnumeric : t.base ∉ ["date", "float", "double", "int", "long"] := by
      simp only [List.mem_cons, List.not_mem_nil, or_false, not_or]
      exact ⟨hother .date, hother .float, hdouble, hother .int, hother .long⟩
    have hboolean : t.base ≠ "boolean" := hother .boolean
    have hstring : t.base ≠ "string" := hother .string
    simp only [if_neg hnumeric, if_neg hboolean, if_neg hstring, Option.bind_none]

/-- A plain attribute of a primitive type is indexed like that primitive if no blank is in the base
name, and else it is not indexed. -/
theorem plainKind?_of_ofRaw? (ht : t.kind = .primitive)
    (hp : Primitive.ofRaw? t.base = some p) :
    plainKind? ofStrings t =
      if t.base.toList.any Text.isBlank then none else p.indexKind? ofStrings := by
  have hdouble : t.base ≠ "double" := fun h => by
    have hnone : Primitive.ofRaw? "double" = none := by decide
    rw [h, hnone] at hp
    cases hp
  rw [plainKind?_primitive ht hdouble, Primitive.ofSpelling?_of_ofRaw? hp]
  split <;> rfl

/-- An attribute that says nothing about its indexing has at most its own field. -/
theorem ofAttribute_plain (hplain : a.analyzer? = none) (hsub : a.subfields = ∅) :
    (ofAttribute owner ofStrings a t).1 =
      match plainKind? ofStrings t with
      | none => {}
      | some kind => (ofFields owner a.name (KeyMap.empty.insert kind a.name)).1 := by
  have hfields : concreteFields ofStrings a t =
      ((plainKind? ofStrings t).map (·, a.name)).toList := by
    rw [concreteFields, ownField?, indexedSubfields, hplain, hsub]
    exact List.append_nil _
  rw [ofAttribute, hfields]
  cases plainKind? ofStrings t <;> rfl

/-- There is one field, of one kind, and the search kind is the one made up of that kind alone. -/
structure Only (kind : IndexKind) (name : String) (s : Searchability) : Prop where
  field : ∀ other found, s.field? other = some found ↔ other = kind ∧ found = name
  kind : ∀ k, s.kind = some k ↔ k.indexKinds = [kind]

theorem only_ofFields (owner subject : String) (kind : IndexKind) (name : String) :
    Only kind name (ofFields owner subject (KeyMap.empty.insert kind name)).1 := by
  rw [ofFields_eq]
  refine ⟨fun other found => ?_, fun k => ?_⟩
  · change (KeyMap.insert ∅ kind name).find? other = some found ↔ other = kind ∧ found = name
    rw [KeyMap.find?_insert]
    split
    next he => simp [he, eq_comm]
    next hne => simp [hne]
  · have hmem : ∀ other, (KeySet.ofKeys [kind]).contains other = true ↔ other ∈ [kind] :=
      KeySet.contains_ofKeys [kind]
    rw [SearchKind.ofIndexKinds?_eq_some]
    constructor
    · intro h
      refine eq_of_ascending k.ascending_indexKinds (List.pairwise_singleton ..) fun other => ?_
      rw [← h other, ← hmem]
      rfl
    · intro h other
      rw [h, ← hmem]
      rfl

end Searchability

namespace Property
variable {c : Config} {r : Registry} {owner : String} {a : Attribute} {p : Primitive}

/-- The type of an attribute of a primitive type for which nothing is configured. -/
theorem typeAt_primitive (hp : Primitive.ofRaw? (TypeName.split a.typeName).2 = some p)
    (hforced : c.forcedEnum? a.name = none) (hreplaced : c.replacement? owner a.name = none) :
    (typeAt c r owner a).1 =
      { kind := .primitive, name := p.className, base := (TypeName.split a.typeName).2,
        container := (TypeName.split a.typeName).1 } := by
  rw [typeAt, hreplaced, declaredType, hforced]
  simp only [Registry.typeOfRaw, hp]

/-- A property whose type is a primitive other than a pair, and whose attribute says nothing about
its indexing, is indexed by that primitive alone if there is no blank in its base name, and is not
indexed at all if there is one. -/
theorem indexed_unless_blank (c : Config) (r : Registry) (ofStrings : IndexKind)
    (owner declaredBy : String) {a : Attribute} {p : Primitive} {kind : IndexKind}
    (hp : Primitive.ofRaw? (TypeName.split a.typeName).2 = some p)
    (hkind : p.indexKind? ofStrings = some kind) (hplain : a.analyzer? = none)
    (hsub : a.subfields = ∅) (hforced : c.forcedEnum? a.name = none)
    (hreplaced : c.replacement? owner a.name = none) :
    let base := (TypeName.split a.typeName).2
    let made := (ofAttribute c r ofStrings owner declaredBy a).1
    (made.type = { kind := .primitive, name := p.className, base,
                   container := (TypeName.split a.typeName).1 }) ∧
      (base.toList.any Text.isBlank = false → made.searchability.Only kind a.name) ∧
      (base.toList.any Text.isBlank = true → made.searchability = {}) := by
  intro base made
  have ht := typeAt_primitive (r := r) hp hforced hreplaced
  have hbase : (typeAt c r owner a).1.base = base := by rw [ht]
  have hindexed : Searchability.plainKind? ofStrings (typeAt c r owner a).1 =
      if base.toList.any Text.isBlank then none else p.indexKind? ofStrings := by
    rw [← hbase]
    exact Searchability.plainKind?_of_ofRaw? (by rw [ht]) (by rw [hbase]; exact hp)
  have hsearch : made.searchability =
      (Searchability.ofAttribute owner ofStrings a (typeAt c r owner a).1).1 := rfl
  rw [Searchability.ofAttribute_plain hplain hsub, hindexed] at hsearch
  refine ⟨ht, fun hblank => ?_, fun hblank => ?_⟩
  · rw [hblank, if_neg Bool.false_ne_true, hkind] at hsearch
    exact hsearch ▸ Searchability.only_ofFields ..
  · rw [hblank, if_pos rfl] at hsearch
    exact hsearch

/-- Blanks around the raw name of a date in an array do not keep it from being indexed. -/
theorem date_indexed :
    let a : Attribute := { name := "updatedAt", typeName := " array<date> " }
    let made := (ofAttribute {} {} .keyword "Table" "Table" a).1
    (Primitive.ofRaw? (TypeName.split a.typeName).2 = some .date ∧
      Primitive.indexKind? .keyword .date = some .numeric ∧ a.analyzer? = none ∧
      a.subfields = ∅ ∧ Config.forcedEnum? {} a.name = none ∧
      Config.replacement? {} "Table" a.name = none) ∧
      made.type = { kind := .primitive, name := "Long", base := "date",
                    container := some .sortedSet } ∧
      made.searchability.Only .numeric "updatedAt" := by
  intro a made
  have hdate : Primitive.ofRaw? (TypeName.split a.typeName).2 = some .date := by decide +kernel
  have h := indexed_unless_blank {} {} .keyword "Table" "Table" hdate rfl rfl rfl rfl rfl
  exact ⟨⟨hdate, rfl, rfl, rfl, rfl, rfl⟩, by decide +kernel, h.2.1 (by decide +kernel)⟩

/-- Blanks inside the array keep an integer from being indexed. -/
theorem blank_integer_not_indexed :
    let a : Attribute := { name := "rowCount", typeName := "array< int >" }
    let made := (ofAttribute {} {} .keyword "Table" "Table" a).1
    Primitive.ofRaw? (TypeName.split a.typeName).2 = some .int ∧
      made.type = { kind := .primitive, name := "Integer", base := " int ",
                    container := some .sortedSet } ∧
      made.searchability = {} := by
  intro a made
  exact ⟨by decide +kernel, by decide +kernel, by decide +kernel⟩

end Property

end TypeCatalog
