import Mathlib.Data.List.Basic
import TypeCatalog.TypeName

/-!
Raw type names taken apart and put together again. Nothing is lost but the blanks around a raw
name; and a container and an inner name are found again if no longer marks could be read instead.
Main statements: `splitTrimmed_eq_iff`, `split_eq_iff` and `names_split_back`.
-/

namespace TypeCatalog

/-- A text whose first and last characters are not blank is trimmed. -/
theorem Text.trim_enclosed {first last : Char} (hfirst : isBlank first = false)
    (hlast : isBlank last = false) (cs : List Char) :
    trim (first :: (cs ++ [last])) = first :: (cs ++ [last]) := by
  have hreverse : (first :: (cs ++ [last])).reverse = last :: (cs.reverse ++ [first]) := by simp
  rw [trim, List.dropWhile_cons_of_neg (by simp [hfirst]), hreverse,
    List.dropWhile_cons_of_neg (by simp [hlast]), ← hreverse, List.reverse_reverse]

/-! ### Marks -/

namespace Container
variable {c : Container} {s t : List Char}

theorem wrap_sortedSet (s : List Char) :
    wrap (some .sortedSet) s = 'a' :: (['r', 'r', 'a', 'y', '<'] ++ s ++ ['>']) := rfl

theorem wrap_map (s : List Char) : wrap (some .map) s = 'm' :: (['a', 'p', '<'] ++ s ++ ['>']) := rfl

/-- The marks of a list of maps are those of a set around those of a map. -/
theorem wrap_listOfMap (s : List Char) :
    wrap (some .listOfMap) s = wrap (some .sortedSet) (wrap (some .map) s) := by
  change ['a', 'r', 'r', 'a', 'y', '<', 'm', 'a', 'p', '<'] ++ s ++ ['>', '>'] = _
  simp [wrap_sortedSet, wrap_map]

/-- Nothing else can stand between the marks of a container. -/
theorem wrap_injective (h : wrap (some c) s = wrap (some c) t) : s = t := by
  have hset : ∀ {s t}, wrap (some .sortedSet) s = wrap (some .sortedSet) t → s = t := fun h => by
    simpa [wrap_sortedSet] using h
  have hmap : ∀ {s t}, wrap (some .map) s = wrap (some .map) t → s = t := fun h => by
    simpa [wrap_map] using h
  cases c with
  | sortedSet => exact hset h
  | listOfMap =>
    rw [wrap_listOfMap, wrap_listOfMap] at h
    exact hmap (hset h)
  | map => exact hmap h
  | list => exact hset h

theorem wrap_map_ne_wrap_sortedSet (s t : List Char) :
    wrap (some .map) s ≠ wrap (some .sortedSet) t := by
  simp [wrap_sortedSet, wrap_map]

/-- The marks of a container are not blank. -/
theorem trim_wrap (c : Container) (s : List Char) :
    Text.trim (wrap (some c) s) = wrap (some c) s := by
  have hset : ∀ s, Text.trim (wrap (some .sortedSet) s) = wrap (some .sortedSet) s := fun s => by
    rw [wrap_sortedSet]
    exact Text.trim_enclosed (by decide) (by decide) _
  cases c with
  | sortedSet => exact hset s
  | listOfMap =>
    rw [wrap_listOfMap]
    exact hset _
  | map =>
    rw [wrap_map]
    exact Text.trim_enclosed (by decide) (by decide) _
  | list => exact hset s

end Container

/-! ### Splitting -/

namespace TypeName
open Container (wrap wrap_injective wrap_listOfMap wrap_map_ne_wrap_sortedSet)
variable {container : Option Container} {cs s : List Char}

theorem between?_eq_some {opening closing : List Char} :
    between? opening closing cs = some s ↔ cs = opening ++ s ++ closing := by
  rw [between?, Option.bind_eq_some_iff]
  simp only [List.isPrefixOf?_eq_some_iff_append_eq, List.isSuffixOf?_eq_some_iff_append_eq]
  constructor
  · rintro ⟨rest, rfl, rfl⟩
    rw [List.append_assoc]
  · rintro rfl
    exact ⟨s ++ closing, (List.append_assoc ..).symm, rfl⟩

/-- No other container than the given one is read around an inner name. -/
def Foremost (s : List Char) : Option Container → Prop
  | none => ∀ c t, s ≠ wrap (some c) t
  | some .sortedSet => ∀ t, s ≠ wrap (some .map) t
  | some .listOfMap | some .map => True
  | some .list => False

/-- A trimmed name has a container and an inner name just if they make the name and no other
container is read. -/
theorem splitTrimmed_eq_iff :
    splitTrimmed cs = (container, s) ↔ cs = wrap container s ∧ Foremost s container := by
  have hmaps : ∀ {t}, between? "array<map<".toList ">>".toList cs = some t ↔
      cs = wrap (some .listOfMap) t := between?_eq_some
  have hset : ∀ {t}, between? "array<".toList ">".toList cs = some t ↔
      cs = wrap (some .sortedSet) t := between?_eq_some
  have hmap : ∀ {t}, between? "map<".toList ">".toList cs = some t ↔
      cs = wrap (some .map) t := between?_eq_some
  unfold splitTrimmed
  -- from here on only what the three readings mean matters
  generalize between? "array<map<".toList ">>".toList cs = maps at hmaps ⊢
  generalize between? "array<".toList ">".toList cs = set at hset ⊢
  generalize between? "map<".toList ">".toList cs = map at hmap ⊢
  constructor
  · cases maps with
    | some t =>
      rintro ⟨⟩
      exact ⟨hmaps.1 rfl, trivial⟩
    | none =>
      cases set with
      | some t =>
        rintro ⟨⟩
        refine ⟨hset.1 rfl, fun u hu => ?_⟩
        cases hmaps.2 (by rw [hset.1 rfl, hu, wrap_listOfMap])
      | none =>
        cases map with
        | some t =>
          rintro ⟨⟩
          exact ⟨hmap.1 rfl, trivial⟩
        | none =>
          rintro ⟨⟩
          refine ⟨rfl, fun c t ht => ?_⟩
          cases c with
          | sortedSet => cases hset.2 ht
          | listOfMap => cases hmaps.2 ht
          | map => cases hmap.2 ht
          | list => cases hset.2 ht
  · rintro ⟨rfl, hforemost⟩
    match container with
    | some .listOfMap => rw [hmaps.2 rfl]
    | some .sortedSet =>
      have hnoMaps : maps = none := Option.eq_none_iff_forall_ne_some.2 fun t ht =>
        hforemost t (wrap_injective ((hmaps.1 ht).trans (wrap_listOfMap t)))
      rw [hnoMaps, hset.2 rfl]
    | some .map =>
      have hnoMaps : maps = none := Option.eq_none_iff_forall_ne_some.2 fun t ht =>
        wrap_map_ne_wrap_sortedSet _ _ ((hmaps.1 ht).trans (wrap_listOfMap t))
      have hnoSet : set = none := Option.eq_none_iff_forall_ne_some.2 fun t ht =>
        wrap_map_ne_wrap_sortedSet _ _ (hset.1 ht)
      rw [hnoMaps, hnoSet, hmap.2 rfl]
    | none =>
      have hnoMaps : maps = none := Option.eq_none_iff_forall_ne_some.2 fun t ht =>
        hforemost _ t (hmaps.1 ht)
      have hnoSet : set = none := Option.eq_none_iff_forall_ne_some.2 fun t ht =>
        hforemost _ t (hset.1 ht)
      have hnoMap : map = none := Option.eq_none_iff_forall_ne_some.2 fun t ht =>
        hforemost _ t (hmap.1 ht)
      rw [hnoMaps, hnoSet, hnoMap]
      rfl

/-- A raw name is an array of something. -/
def IsArray (raw : String) : Prop := ∃ s, Text.trim raw.toList = wrap (some .sortedSet) s

/-- A raw name is a map of something. -/
def IsMap (raw : String) : Prop := ∃ s, Text.trim raw.toList = wrap (some .map) s

/-- The raw name of a container around an inner name. -/
def ofParts (container : Option Container) (inner : String) : String :=
  String.ofList (wrap container inner.toList)

theorem toList_ofParts (container : Option Container) (inner : String) :
    (ofParts container inner).toList = wrap container inner.toList :=
  String.toList_ofList

/-- A raw name has a container and an inner name just if they make the name without the blanks
around it and no other container is read. -/
theorem split_eq_iff {raw inner : String} :
    split raw = (container, inner) ↔
      Text.trim raw.toList = wrap container inner.toList ∧ Foremost inner.toList container := by
  rw [← splitTrimmed_eq_iff, split]
  generalize splitTrimmed (Text.trim raw.toList) = parts
  obtain ⟨k, t⟩ := parts
  simp only [Prod.mk.injEq, ← String.toList_inj, String.toList_ofList]

/-- What is read when a trimmed name is made of a container and an inner name. -/
theorem split_of_trim {raw : String} (h : Text.trim raw.toList = wrap container s)
    (hforemost : Foremost s container) : split raw = (container, String.ofList s) :=
  split_eq_iff.2 (by rw [String.toList_ofList]; exact ⟨h, hforemost⟩)

/-- What makes a trimmed name whose container is known. -/
theorem trim_of_split {raw : String} (h : (split raw).1 = container) :
    Text.trim raw.toList = wrap container (split raw).2.toList :=
  (split_eq_iff.1 (Prod.ext h rfl)).1

/-- An array is read as a set or as a list of maps. -/
theorem isArray_iff {raw : String} : IsArray raw ↔
    (split raw).1 = some .sortedSet ∨ (split raw).1 = some .listOfMap := by
  constructor
  · rintro ⟨s, hs⟩
    by_cases hmap : ∃ t, s = wrap (some .map) t
    · obtain ⟨t, rfl⟩ := hmap
      rw [← wrap_listOfMap] at hs
      rw [split_of_trim hs trivial]
      exact .inr rfl
    · rw [split_of_trim hs fun t ht => hmap ⟨t, ht⟩]
      exact .inl rfl
  · rintro (h | h)
    · exact ⟨_, trim_of_split h⟩
    · exact ⟨_, (trim_of_split h).trans (wrap_listOfMap _)⟩

theorem isMap_iff {raw : String} : IsMap raw ↔ (split raw).1 = some .map := by
  constructor
  · rintro ⟨s, hs⟩
    rw [split_of_trim hs trivial]
  · exact fun h => ⟨_, trim_of_split h⟩

/-- What is read of a container around an inner name is that container and that name just if no
other container is read. -/
theorem split_ofParts_iff {c : Container} {inner : String} :
    split (ofParts (some c) inner) = (some c, inner) ↔ Foremost inner.toList (some c) := by
  rw [split_eq_iff, toList_ofParts, Container.trim_wrap, and_iff_right rfl]

theorem ne_ofParts_iff {c : Container} {raw : String} :
    (∀ inner, raw ≠ ofParts (some c) inner) ↔ ∀ s, raw.toList ≠ wrap (some c) s := by
  constructor
  · intro h s hs
    exact h (String.ofList s) (String.toList_inj.1 (by rw [toList_ofParts, hs, String.toList_ofList]))
  · rintro h inner rfl
    exact h _ (toList_ofParts _ _)

/-- The parts of a raw name make it again, up to blanks around it; and the parts that a raw name
is made of are found again, but for a map in a set, which makes a list of maps, and for a bare name
that is not trimmed or looks like a container. -/
theorem names_split_back :
    (∀ raw, ofParts (split raw).1 (split raw).2 = String.ofList (Text.trim raw.toList)) ∧
    ∀ inner,
      split (ofParts (some .listOfMap) inner) = (some .listOfMap, inner) ∧
      split (ofParts (some .map) inner) = (some .map, inner) ∧
      (split (ofParts (some .sortedSet) inner) = (some .sortedSet, inner) ↔
        ∀ other, inner ≠ ofParts (some .map) other) ∧
      (split (ofParts none inner) = (none, inner) ↔
        Text.trim inner.toList = inner.toList ∧ ∀ c other, inner ≠ ofParts (some c) other) := by
  refine ⟨fun raw => ?_, fun inner => ⟨?_, ?_, ?_, ?_⟩⟩
  · rw [(split_eq_iff.1 rfl).1]
    rfl
  · exact split_ofParts_iff.2 trivial
  · exact split_ofParts_iff.2 trivial
  · rw [split_ofParts_iff, ne_ofParts_iff]
    rfl
  · rw [split_eq_iff, toList_ofParts]
    refine and_congr Iff.rfl (forall_congr' fun c => ?_)
    exact ne_ofParts_iff.symm

end TypeName

end TypeCatalog
