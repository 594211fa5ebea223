import TypeCatalog.Json.Record
import TypeCatalog.Proofs.Json.RoundTrip
import TypeCatalog.Proofs.KeyMap

/-!
Records are read back from the documents that list their fields, also if members are missing that may
be spared because their fields have defaults. Main statements: `record?_of_abridges`, and
`Holds.required`, `Holds.optional` and `Holds.withDefault` for the three kinds of field.
-/

namespace TypeCatalog.Json

/-! ### Plain values -/

theorem int64?_toInt (n : Int64) : (int n.toInt).int64? = some n := by
  have hbounds : Int64.minValue.toInt ≤ n.toInt ∧ n.toInt ≤ Int64.maxValue.toInt :=
    ⟨n.minValue_le_toInt, n.toInt_le⟩
  rw [int, int64?, if_pos hbounds, Int64.ofInt_toInt]

/-- A list is read back if all of its items are. -/
theorem list?_array {α : Type} {f : Json → Option α} {l : List α} {js : List Json}
    (h : List.Forall₂ (fun a j => f j = some a) l js) : list? f (.array js) = some l := by
  induction h with
  | nil => rfl
  | cons hj _ ih =>
    rw [list?] at ih ⊢
    rw [List.mapM_cons, hj, ih]
    rfl

/-- An array of plain documents is plain, whatever they are documents of. -/
theorem plain_array_of {α : Type} {written : α → Json → Prop} {l : List α} {js : List Json}
    (hplain : ∀ {a j}, written a j → Plain j) (h : List.Forall₂ written l js) :
    (Json.array js).Plain := by
  rw [plain_array]
  induction h with
  | nil => simp
  | cons hj _ ih => exact List.forall_mem_cons.2 ⟨hplain hj, ih⟩

theorem forall₂_map {α : Type} {written : α → Json → Prop} {g : α → Json}
    (h : ∀ a, written a (g a)) (l : List α) : List.Forall₂ written l (l.map g) :=
  List.forall₂_map_right_iff.2 (List.forall₂_same.2 fun a _ => h a)

theorem list?_ofList {α : Type} {f : Json → Option α} {g : α → Json}
    (h : ∀ a, f (g a) = some a) (l : List α) : list? f (.ofList g l) = some l :=
  list?_array (forall₂_map h l)

theorem set?_ofSet (s : KeySet String) : set? (.ofSet s) = some s := by
  have hkeys : list? string? (.ofSet s) = some s.keys :=
    list?_ofList (g := .string) (fun _ => rfl) s.keys
  rw [set?, hkeys, Option.map_some, KeySet.ofKeys_keys]

theorem map?_ofMap {ν : Type} {f : Json → Option ν} {g : ν → Json} (h : ∀ v, f (g v) = some v)
    (m : KeyMap String ν) : map? f (.ofMap g m) = some m := by
  have hentries : ∀ l : List (String × ν),
      (l.map fun e => (e.1, g e.2)).mapM (fun m => (f m.2).map (m.1, ·)) = some l := by
    intro l
    induction l with
    | nil => rfl
    | cons e l ih =>
      rw [List.map_cons, List.mapM_cons, ih, h]
      rfl
  rw [ofMap, map?, hentries, Option.map_some, KeyMap.ofList_entries]

/-! ### Holding -/

theorem membersHoldable_iff {depth : Nat} {ms : List (String × Json)} :
    membersHoldable depth ms = true ↔ ∀ m ∈ ms, m.2.isHoldable depth = true := by
  induction ms with
  | nil => simp [membersHoldable]
  | cons m ms ih => rw [membersHoldable, Bool.and_eq_true, ih, List.forall_mem_cons]

/-- An object can be held if its values can, one level deeper. -/
theorem isHoldable_object {depth : Nat} {ms : List (String × Json)}
    (h : ∀ m ∈ ms, m.2.isHoldable depth = true) : (Json.object ms).isHoldable (depth + 1) = true := by
  rw [isHoldable, Nat.add_sub_cancel, membersHoldable_iff.2 h, Bool.and_true, decide_eq_true_eq]
  exact Nat.succ_ne_zero depth

theorem isHoldable_present {depth : Nat} {members : List (String × Option Json)}
    (h : ∀ m ∈ members, ∀ v, m.2 = some v → v.isHoldable depth = true) :
    (present members).isHoldable (depth + 1) = true := by
  refine isHoldable_object fun e he => ?_
  obtain ⟨m, hm, he⟩ := List.mem_filterMap.1 he
  obtain ⟨v, hv, rfl⟩ := Option.map_eq_some_iff.1 he
  exact h m hm v hv

theorem isHoldable_ofMap {ν : Type} {depth : Nat} {f : ν → Json}
    (h : ∀ v, (f v).isHoldable depth = true) (m : KeyMap String ν) :
    (ofMap f m).isHoldable (depth + 1) = true := by
  refine isHoldable_object fun e he => ?_
  obtain ⟨e, -, rfl⟩ := List.mem_map.1 he
  exact h e.2

/-! ### Objects without some of their members -/

/-- A document is the object of some members, maybe without some of those that may be spared. -/
def Abridges (spare : List (String × Json)) (whole j : Json) : Prop :=
  ∃ all ms, whole = .object all ∧ j = .object ms ∧ ms.Sublist all ∧ ∀ m ∈ all, m ∉ ms → m ∈ spare

/-- Nothing need be missing. -/
theorem Abridges.refl (spare all : List (String × Json)) : Abridges spare (.object all) (.object all) :=
  ⟨all, all, rfl, rfl, .refl _, fun _ hm hnot => absurd hm hnot⟩

theorem Abridges.plain {spare : List (String × Json)} {whole j : Json} (h : Abridges spare whole j)
    (hwhole : Plain whole) : Plain j := by
  obtain ⟨all, ms, rfl, rfl, hsub, -⟩ := h
  cases hwhole with
  | object hall => exact .object fun m hm => hall m (hsub.subset hm)

/-- Of members with different names each is found. -/
theorem lookup_eq_some {ms : List (String × Json)} (hnodup : (ms.map (·.1)).Nodup) {name : String}
    {v : Json} : ms.lookup name = some v ↔ (name, v) ∈ ms := by
  induction ms with
  | nil => simp
  | cons m ms ih =>
    obtain ⟨first, w⟩ := m
    obtain ⟨hm, hms⟩ := List.nodup_cons.1 hnodup
    by_cases hname : name = first
    · subst hname
      have hnot : (name, v) ∉ ms := fun h => hm (List.mem_map.2 ⟨_, h, rfl⟩)
      simp [hnot, eq_comm]
    · simp [List.lookup_cons, beq_false_of_ne hname, ih hms, hname]

namespace Record

/-- A record has the values of some members, or if they may be spared it may have none for them. -/
def Holds (r : Record) (spare : List (String × Json)) (members : List (String × Option Json)) :
    Prop :=
  ∀ name value, (name, value) ∈ members →
    r.get? name = value ∨ r.get? name = none ∧ ∃ v, value = some v ∧ (name, v) ∈ spare

end Record

theorem mem_present {members : List (String × Option Json)} {name : String} {v : Json} :
    (name, v) ∈ members.filterMap (fun m => m.2.map (m.1, ·)) ↔ (name, some v) ∈ members := by
  rw [List.mem_filterMap]
  constructor
  · rintro ⟨⟨name, value⟩, hm, hv⟩
    obtain ⟨v, rfl, he⟩ := Option.map_eq_some_iff.1 hv
    cases he
    exact hm
  · exact fun hm => ⟨_, hm, rfl⟩

theorem present_some (ms : List (String × Json)) :
    present (ms.map fun m => (m.1, some m.2)) = .object ms := by
  rw [present, List.filterMap_map]
  exact congrArg object (List.filterMap_some ..)

theorem names_present (members : List (String × Option Json)) :
    ((members.filterMap fun m => m.2.map (m.1, ·)).map (·.1)).Sublist (members.map (·.1)) := by
  induction members with
  | nil => exact .slnil
  | cons m members ih =>
    obtain ⟨name, value⟩ := m
    cases value with
    | none => exact ih.cons name
    | some v => exact ih.cons_cons name

/-- A record is read out of the object of its members, also if some are missing. Other members do
not matter. -/
theorem record?_of_abridges {names : List String} {spare : List (String × Json)}
    {known members : List (String × Option Json)} {j : Json}
    (h : Abridges spare (present members) j) (hnodup : (members.map (·.1)).Nodup)
    (hknown : known ⊆ members) (hnames : ∀ m ∈ known, m.1 ∈ names) :
    ∃ r, j.record? names = some r ∧ r.Holds spare known := by
  obtain ⟨all, ms, hall, rfl, hsub, hspare⟩ := h
  obtain rfl := Json.object.inj hall
  have hmember : ∀ name v, (name, v) ∈ ms → (name, some v) ∈ members :=
    fun name v hm => mem_present.1 (hsub.subset hm)
  have hunique : ∀ name value v, (name, value) ∈ members → (name, v) ∈ ms → value = some v :=
    fun name value v hm hv =>
      (Prod.mk.inj (List.inj_on_of_nodup_map hnodup hm (hmember name v hv) rfl)).2
  let fields := ms.filter fun m => names.contains m.1
  have hfields : (fields.map (·.1)).Nodup :=
    hnodup.sublist (((List.filter_sublist.trans hsub).map _).trans (names_present members))
  have hget : ∀ name ∈ names, ∀ v, fields.lookup name = some v ↔ (name, v) ∈ ms := by
    intro name hname v
    rw [lookup_eq_some hfields, List.mem_filter, List.contains_iff_mem, and_iff_left hname]
  refine ⟨⟨fields⟩, if_pos hfields, fun name value hm => ?_⟩
  have hname : name ∈ names := hnames _ hm
  cases hlookup : fields.lookup name with
  | some v =>
    refine .inl ?_
    rw [hunique name value v (hknown hm) ((hget name hname v).1 hlookup)]
    exact hlookup
  | none =>
    cases value with
    | none => exact .inl hlookup
    | some v =>
      have hmissing : (name, v) ∉ ms := fun hv => by
        rw [(hget name hname v).2 hv] at hlookup
        cases hlookup
      exact .inr ⟨hlookup, v, rfl, hspare _ (mem_present.2 (hknown hm)) hmissing⟩

/-! ### Fields -/

namespace Record.Holds
variable {r : Record} {spare : List (String × Json)} {members : List (String × Option Json)}
  {α : Type} {name : String} {f : Json → Option α}

/-- A field that may not be spared is as written. -/
theorem get?_eq (h : r.Holds spare members) {value : Option Json} (hm : (name, value) ∈ members)
    (hkept : name ∉ spare.map (·.1)) : r.get? name = value := by
  rcases h name value hm with hget | ⟨-, v, -, hv⟩
  · exact hget
  · exact absurd (List.mem_map.2 ⟨_, hv, rfl⟩) hkept

theorem required (h : r.Holds spare members) {v : Json} {a : α} (hm : (name, some v) ∈ members)
    (hkept : name ∉ spare.map (·.1)) (hv : f v = some a) : r.required name f = some a := by
  rw [Record.required, h.get?_eq hm hkept, Option.bind_some, hv]

theorem optional (h : r.Holds spare members) {g : α → Json} {a : Option α}
    (hm : (name, a.map g) ∈ members) (hkept : name ∉ spare.map (·.1))
    (hg : ∀ a, f (g a) = some a) (hnull : ∀ a, g a ≠ .null) : r.optional name f = some a := by
  rw [Record.optional, h.get?_eq hm hkept]
  cases a with
  | none => rfl
  | some a =>
    rw [Option.map_some]
    split
    · rename_i hnone
      cases hnone
    · rename_i hnone
      exact absurd (Option.some.inj hnone) (hnull a)
    · rename_i j _ hj
      obtain rfl := Option.some.inj hj
      rw [hg, Option.map_some]

theorem requiredText (h : r.Holds spare members) {s : String}
    (hm : (name, some (.string s)) ∈ members) (hkept : name ∉ spare.map (·.1)) :
    r.required name string? = some s :=
  h.required hm hkept rfl

theorem optionalText (h : r.Holds spare members) {s : Option String}
    (hm : (name, s.map .string) ∈ members) (hkept : name ∉ spare.map (·.1)) :
    r.optional name string? = some s :=
  h.optional hm hkept (fun _ => rfl) fun _ => Json.noConfusion

/-- A field with a default is read back from its member, if what may be spared of it is the default. -/
theorem withDefault (h : r.Holds spare members) {v : Json} {a default : α}
    (hm : (name, some v) ∈ members) (hv : f v = some a)
    (hspare : ∀ w, (name, w) ∈ spare → f w = some default) :
    r.withDefault name default f = some a := by
  rcases h name _ hm with hget | ⟨hget, w, hw, hmem⟩
  · rw [Record.withDefault, hget]
    exact hv
  · obtain rfl := Option.some.inj hw
    rw [Record.withDefault, hget, ← hspare v hmem]
    exact hv

/-- A field with a default is read back if what may be spared is written like the default. -/
theorem withDefault_of_default (h : r.Holds spare members) {g : α → Json} {a default : α}
    (hm : (name, some (g a)) ∈ members) (hdefault : (name, g default) ∈ spare)
    (hspare : (spare.map (·.1)).Nodup) (hg : ∀ a, f (g a) = some a) :
    r.withDefault name default f = some a := by
  refine h.withDefault hm (hg a) fun w hw => ?_
  obtain ⟨-, rfl⟩ := Prod.mk.inj (List.inj_on_of_nodup_map hspare hw hdefault rfl)
  exact hg default

/-- A field with a default that is not written has it. -/
theorem withDefault_of_none (h : r.Holds spare members) (default : α)
    (hm : (name, none) ∈ members) : r.withDefault name default f = some default := by
  rcases h name _ hm with hget | ⟨-, v, hv, -⟩
  · rw [Record.withDefault, hget]
  · cases hv

end Record.Holds

end TypeCatalog.Json
