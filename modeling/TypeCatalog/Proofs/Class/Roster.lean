import TypeCatalog.Class.Entity
import TypeCatalog.Proofs.Catalog
import TypeCatalog.Proofs.KeyMap
import TypeCatalog.Proofs.Text.ByteOrder

/-!
Names and places on a roster. On a roster whose names ascend, halving finds a name where it stands
and nowhere else (`placeWithin?_eq_some_iff`), so that names and places determine each other. Main
statement: `names_have_places`, for the roster of the entities of a snapshot.
-/

namespace TypeCatalog
open Text (bytes)

namespace Roster
variable {r : Roster}

/-- The names of a roster ascend strictly. -/
def Ascending (r : Roster) : Prop :=
  ∀ p q : r.Place, p < q → compare (r.name p) (r.name q) = .lt

/-- The names stand in the order of their places. -/
theorem lt_of_compare_lt (hr : r.Ascending) {p q : r.Place}
    (h : compare (r.name p) (r.name q) = .lt) : p < q := by
  rcases lt_trichotomy p q with hpq | rfl | hqp
  · exact hpq
  · simp [Std.ReflCmp.compare_self] at h
  · have hloop := Std.TransCmp.lt_trans h (hr q p hqp)
    simp [Std.ReflCmp.compare_self] at hloop

theorem name_injective (hr : r.Ascending) {p q : r.Place} (h : r.name p = r.name q) : p = q := by
  rcases lt_trichotomy p q with hpq | rfl | hqp
  · simpa [h, Std.ReflCmp.compare_self] using hr p q hpq
  · rfl
  · simpa [h, Std.ReflCmp.compare_self] using hr q p hqp

/-- What is found between two bounds is the place between them where the name stands. The half that
is left out has lesser names only, or greater ones only. -/
theorem placeWithin?_eq_some_iff (hr : r.Ascending) {name : String} {low high : Nat}
    {bound : high ≤ r.names.size} {p : r.Place} :
    r.placeWithin? name low high bound = some p ↔
      low ≤ p.val ∧ p.val < high ∧ r.name p = name := by
  fun_induction Roster.placeWithin? r name low high bound with
  | case1 low high bound ordered lower inside middle hc =>
    obtain rfl : name = r.name middle := Std.LawfulEqCmp.eq_of_compare hc
    constructor
    · intro hfound
      obtain rfl := Option.some.inj hfound
      exact ⟨lower, inside, rfl⟩
    · rintro ⟨-, -, hname⟩
      rw [name_injective hr hname]
  | case2 low high bound ordered lower inside middle hc ih =>
    rw [ih]
    refine and_congr_right fun _ => and_congr_left fun hname => ?_
    subst hname
    exact iff_of_true (lt_of_compare_lt hr hc) (Nat.lt_trans (lt_of_compare_lt hr hc) inside)
  | case3 low high bound ordered lower inside middle hc ih =>
    rw [ih, ← and_assoc, ← and_assoc]
    refine and_congr_left fun hname => and_congr_left fun _ => ?_
    subst hname
    have hlt : middle < p := lt_of_compare_lt hr (Std.OrientedCmp.gt_iff_lt.1 hc)
    exact iff_of_true hlt (Nat.le_trans lower (Nat.le_of_lt hlt))
  | case4 low high bound ordered =>
    refine iff_of_false nofun fun ⟨hlow, hhigh, _⟩ => ?_
    omega

/-- A name has the place where it stands, and no other one. -/
theorem place?_eq_some_iff (hr : r.Ascending) {name : String} {p : r.Place} :
    r.place? name = some p ↔ r.name p = name := by
  rw [place?, placeWithin?_eq_some_iff hr]
  exact ⟨fun h => h.2.2, fun h => ⟨Nat.zero_le _, p.isLt, h⟩⟩

theorem exists_name_eq_iff {name : String} : (∃ p : r.Place, r.name p = name) ↔ name ∈ r.names := by
  rw [Array.mem_iff_getElem]
  exact ⟨fun ⟨p, hp⟩ => ⟨p.val, p.isLt, hp⟩, fun ⟨i, hi, hname⟩ => ⟨⟨i, hi⟩, hname⟩⟩

/-- A name has a place if it is on the roster. -/
theorem isSome_place? (hr : r.Ascending) {name : String} :
    (r.place? name).isSome = true ↔ name ∈ r.names := by
  rw [Option.isSome_iff_exists, ← exists_name_eq_iff]
  exact exists_congr fun p => place?_eq_some_iff hr

theorem map_name_places (r : Roster) : r.places.map r.name = r.names.toList := by
  refine List.ext_getElem (by simp [places]) fun i hi hi' => ?_
  simp [places, name]

theorem ascending_ofKeys {ν : Type} (m : KeyMap String ν) :
    Roster.Ascending { names := m.keys.toArray } :=
  fun p q hpq => List.pairwise_iff_getElem.1 m.ascending_keys p.val q.val p.isLt q.isLt hpq

end Roster

/-- Whatever was done before: naming the entities of a snapshot gives a roster that lists each
entity once, in the order of the bytes of their names. Names and places on it determine each other,
and only entities have places. On a roster without names no name has a place. -/
theorem names_have_places (config : Config) (snapshot : Snapshot) (s : Store) :
    let c := (Catalog.ofSnapshot config snapshot).1
    let roster := (c.nameEntities.run s).1
    let entities := snapshot.entities.map (·.name)
    roster.names.toList.Pairwise (fun a b => bytes a < bytes b) ∧
    (∀ name, roster.names.toList.count name = if name ∈ entities then 1 else 0) ∧
    roster.places.map roster.name = roster.names.toList ∧
    (∀ name, (roster.place? name).isSome = true ↔ name ∈ entities) ∧
    (∀ name place, roster.place? name = some place ↔ roster.name place = name) ∧
    (∀ place, place ∈ roster.places) ∧
    ∀ name, ({} : Roster).place? name = none := by
  intro c roster entities
  have hroster : roster = { names := c.entities.keys.toArray } := rfl
  have hasc : roster.Ascending := Roster.ascending_ofKeys c.entities
  have hmem (name : String) : name ∈ c.entities.keys ↔ name ∈ entities := by
    rw [KeyMap.mem_keys_iff, Catalog.contains_entities]
    simp [entities]
  refine ⟨?_, fun name => ?_, roster.map_name_places, fun name => ?_,
    fun name place => Roster.place?_eq_some_iff hasc, List.mem_finRange, fun name => ?_⟩
  · simp only [Text.bytes_lt_iff]
    exact c.entities.ascending_keys
  · simp only [← hmem]
    exact c.entities.nodup_keys.count
  · rw [Roster.isSome_place? hasc, hroster, List.mem_toArray, hmem]
  · rw [Roster.place?, Roster.placeWithin?]
    rfl

end TypeCatalog
