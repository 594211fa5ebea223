import Mathlib.Data.List.Induction
import TypeCatalog.Proofs.Class.PropertySets
import TypeCatalog.Proofs.KeyMap
import TypeCatalog.Proofs.Text.ByteOrder

/-!
Insertions into a set of properties, one after another. The first property of a name is accepted and
stays; any other one is refused, which leaves the set as it is and logs one conflict. What an
insertion does is told by `next_of_free` and `next_of_taken`, and what a sequence of them leaves by
`get?_ofList` and `balance_ofList`. Main statement: `first_insertion_stays`.
-/

namespace TypeCatalog
open Text (bytes)

/-- A property that is inserted into a set, and the owner of the set. -/
structure Insertion where
  owner : String
  property : Property
  deriving DecidableEq, Repr

/-- What insertions leave: the set, the log, and for each insertion whether it was accepted. -/
structure Insertions where
  set : PropertySet
  log : Log
  accepted : List Bool
  deriving DecidableEq, Repr

namespace Log

theorem size_add (log : Log) (f : Finding) : (log.add f).size = log.size + 1 := rfl

theorem countOf_add (log : Log) (f : Finding) (kind : FindingKind) :
    (log.add f).countOf kind = log.countOf kind + if f.kind = kind then 1 else 0 := by
  rw [countOf, add, List.countP_cons, countOf]
  simp only [decide_eq_true_eq]

end Log

namespace Insertions

/-- Makes one more insertion, which is accepted if nothing is found in making it. -/
def next (state : Insertions) (i : Insertion) : Insertions :=
  let (set, found) := state.set.insert i.owner i.property
  { set, log := state.log.addAll found, accepted := state.accepted ++ [found.isEmpty] }

/-- Makes insertions into an empty set. -/
def ofList (log : Log) (insertions : List Insertion) : Insertions :=
  insertions.foldl next { set := ∅, log, accepted := [] }

variable {log : Log} {state : Insertions} {i : Insertion} {kept : Property}

theorem ofList_concat (log : Log) (l : List Insertion) (i : Insertion) :
    ofList log (l ++ [i]) = (ofList log l).next i := by
  rw [ofList, List.foldl_append]
  rfl

/-! ### One insertion -/

/-- A property of a new name is accepted. -/
theorem next_of_free (h : state.set.get? i.property.name = none) :
    state.next i =
      { set := ⟨state.set.byName.insert i.property.name i.property⟩
        log := state.log
        accepted := state.accepted ++ [true] } := by
  rw [next, PropertySet.insert, h]
  rfl

/-- A property whose name is taken is refused and logged. -/
theorem next_of_taken (h : state.set.get? i.property.name = some kept) :
    state.next i =
      { set := state.set
        log := state.log.add (PropertySet.conflict i.owner kept i.property)
        accepted := state.accepted ++ [false] } := by
  rw [next, PropertySet.insert, h]
  rfl

theorem size_of_free {s : PropertySet} {p : Property} (h : s.get? p.name = none) :
    PropertySet.size ⟨s.byName.insert p.name p⟩ = s.size + 1 := by
  have hnew : s.byName.contains p.name = false := by
    rw [KeyMap.contains, ← PropertySet.get?, h]
    rfl
  rw [PropertySet.size, KeyMap.size_insert, hnew]
  rfl

/-! ### All insertions -/

/-- Under each name stands the first property that was inserted under it. -/
theorem get?_ofList (log : Log) (name : String) (l : List Insertion) :
    (ofList log l).set.get? name =
      (l.find? fun i => i.property.name = name).map (·.property) := by
  induction l using List.reverseRecOn with
  | nil => rfl
  | append_singleton l i ih =>
    have hset : ((ofList log l).next i).set =
        ((ofList log l).set.insert i.owner i.property).1 := rfl
    rw [ofList_concat, hset, PropertySet.get?_insert, ih, List.find?_append, Option.map_or,
      List.find?_singleton]
    by_cases hn : i.property.name = name
    · simp [hn]
    · simp [hn]

/-- Each insertion adds either a property to the set or a conflict to the log. -/
theorem balance_ofList (log : Log) (l : List Insertion) :
    l.length + log.size = (ofList log l).set.size + (ofList log l).log.size ∧
      l.length + log.countOf .conflict =
        (ofList log l).set.size + (ofList log l).log.countOf .conflict := by
  induction l using List.reverseRecOn with
  | nil => exact ⟨rfl, rfl⟩
  | append_singleton l i ih =>
    obtain ⟨hsize, hcount⟩ := ih
    rw [ofList_concat, List.length_append, List.length_singleton]
    cases hfound : (ofList log l).set.get? i.property.name with
    | none =>
      rw [next_of_free hfound]
      simp only [size_of_free hfound]
      exact ⟨by omega, by omega⟩
    | some kept =>
      rw [next_of_taken hfound]
      simp only [Log.size_add, Log.countOf_add, PropertySet.conflict, if_true]
      exact ⟨by omega, by omega⟩

end Insertions

/-- Whatever is inserted into an empty set, one property after another: under each name the set
holds the first one, its names ascend, and each further insertion is accepted if its name is new;
otherwise it leaves the set as it is and logs one conflict of the property with the one that stays.
So there are as many insertions as properties in the set and conflicts logged. -/
theorem first_insertion_stays (log : Log) (insertions : List Insertion) :
    let left := Insertions.ofList log insertions
    (∀ name, left.set.get? name =
      (insertions.find? fun i => i.property.name = name).map (·.property)) ∧
    left.set.names.Pairwise (fun a b => bytes a < bytes b) ∧
    (∀ owner p, Insertions.ofList log (insertions ++ [⟨owner, p⟩]) =
      match insertions.find? fun i => i.property.name = p.name with
      | none =>
        { set := ⟨left.set.byName.insert p.name p⟩
          log := left.log
          accepted := left.accepted ++ [true] }
      | some first =>
        { set := left.set
          log := left.log.add ⟨.conflict, owner, p.name,
            "kept " ++ (first.property.declaredBy ++ "." ++ first.property.source ++ ":" ++
              first.property.type.base) ++
            ", discarded " ++ (p.declaredBy ++ "." ++ p.source ++ ":" ++ p.type.base)⟩
          accepted := left.accepted ++ [false] }) ∧
    insertions.length + log.size = left.set.size + left.log.size ∧
    insertions.length + log.countOf .conflict = left.set.size + left.log.countOf .conflict := by
  intro left
  have hget (name : String) := Insertions.get?_ofList log name insertions
  refine ⟨hget, ?_, fun owner p => ?_, Insertions.balance_ofList log insertions⟩
  · simp only [Text.bytes_lt_iff]
    exact left.set.byName.ascending_keys
  · rw [Insertions.ofList_concat]
    cases hfirst : insertions.find? fun i => i.property.name = p.name with
    | none => exact Insertions.next_of_free ((hget p.name).trans (by rw [hfirst]; rfl))
    | some first => exact Insertions.next_of_taken ((hget p.name).trans (by rw [hfirst]; rfl))

end TypeCatalog
