import TypeCatalog.Class.Basic
import TypeCatalog.Proofs.Json.Records

/-!
The documents of classes are plain and tell all that a class holds, although members without a value
and empty maps and sets are left out. Main statements: `present_inj` for objects in general, and
`toJson_injective` for each sort of class.
-/

namespace TypeCatalog

/-! ### Objects, maps and sets -/

namespace Json

/-- An object tells the value of each member, also of one that is left out. -/
theorem lookup_present {members : List (String × Option Json)}
    (hnodup : (members.map (·.1)).Nodup) {m : String × Option Json} (hm : m ∈ members) :
    (members.filterMap fun m => m.2.map (m.1, ·)).lookup m.1 = m.2 := by
  refine Option.ext fun v => ?_
  rw [lookup_eq_some (hnodup.sublist (names_present members)), mem_present]
  constructor
  · intro hv
    exact congrArg Prod.snd (List.inj_on_of_nodup_map hnodup hm hv rfl)
  · intro hv
    rw [← hv]
    exact hm

/-- Members of the same names, all different, that give one object are the same. -/
theorem present_inj {members members' : List (String × Option Json)}
    (h : present members = present members') (hnodup : (members.map (·.1)).Nodup)
    (hnames : members.map (·.1) = members'.map (·.1)) : members = members' := by
  have htold : ∀ ms : List (String × Option Json), (ms.map (·.1)).Nodup →
      ms = (ms.map (·.1)).map fun name =>
        (name, (ms.filterMap fun m => m.2.map (m.1, ·)).lookup name) := by
    intro ms hms
    rw [List.map_map]
    conv_lhs => rw [← List.map_id ms]
    exact List.map_congr_left fun m hm => Prod.ext rfl (lookup_present hms hm).symm
  rw [htold members hnodup, htold members' (hnames ▸ hnodup), hnames, Json.object.inj h]

theorem object_entries_injective {κ ν : Type} [Ord κ] {key : κ → String} {f : ν → Json}
    (hkey : Function.Injective key) (hf : Function.Injective f) :
    Function.Injective fun m : KeyMap κ ν => object (m.entries.map fun e => (key e.1, f e.2)) := by
  intro m m' h
  have hentries : m.entries = m'.entries :=
    List.map_injective_iff.2 (hkey.prodMap hf) (object.inj h)
  cases m
  cases m'
  cases hentries
  rfl

theorem ofMap_injective {ν : Type} {f : ν → Json} (hf : Function.Injective f) :
    Function.Injective (ofMap f) :=
  object_entries_injective Function.injective_id hf

theorem ofSet_injective : Function.Injective ofSet := fun s s' h =>
  Option.some.inj ((set?_ofSet s).symm.trans (h ▸ set?_ofSet s'))

theorem ofList_injective {α : Type} {f : α → Json} (hf : Function.Injective f) :
    Function.Injective (ofList f) := fun _ _ h =>
  List.map_injective_iff.2 hf (array.inj h)

theorem int64_injective : Function.Injective fun n : Int64 => int n.toInt := fun n n' h =>
  Option.some.inj ((int64?_toInt n).symm.trans ((congrArg int64? h).trans (int64?_toInt n')))

/-- A map that is left out if it is empty is told by what is left. -/
theorem unlessEmpty_inj {κ ν : Type} [Ord κ] {g : KeyMap κ ν → Json} (hg : Function.Injective g)
    {m m' : KeyMap κ ν} :
    (if m.isEmpty then none else some (g m)) = (if m'.isEmpty then none else some (g m')) ↔
      m = m' := by
  refine ⟨fun h => ?_, fun h => by rw [h]⟩
  split at h <;> split at h
  next hm hm' => rw [KeyMap.eq_empty_of_isEmpty hm, KeyMap.eq_empty_of_isEmpty hm']
  next => cases h
  next => cases h
  next => exact hg (Option.some.inj h)

/-- A member without a value is told from one with any value. -/
theorem optional_inj {α : Type} {f : α → Json} (hf : Function.Injective f) {a b : Option α} :
    a.map f = b.map f ↔ a = b :=
  (Option.map_injective hf).eq_iff

@[simp] theorem optionalText_inj {a b : Option String} : a.map string = b.map string ↔ a = b :=
  optional_inj fun _ _ => string.inj

@[simp] theorem listOfText_inj {l l' : List String} : ofList string l = ofList string l' ↔ l = l' :=
  (ofList_injective fun _ _ => string.inj).eq_iff

end Json

open Json

/-! ### Types and searchability -/

theorem TargetKind.label_injective : Function.Injective label := fun a b h => by
  cases a <;> cases b <;> first | rfl | exact absurd h (by decide)

theorem Container.label_injective : Function.Injective label := fun a b h => by
  cases a <;> cases b <;> first | rfl | exact absurd h (by decide)

theorem SearchKind.label_injective : Function.Injective label := fun a b h => by
  cases a <;> cases b <;> first | rfl | exact absurd h (by decide)

theorem IndexKind.label_injective : Function.Injective label := fun a b h => by
  cases a <;> cases b <;> first | rfl | exact absurd h (by decide)

theorem Cardinality.label_injective : Function.Injective label := fun a b h => by
  cases a <;> cases b <;> first | rfl | exact absurd h (by decide)

namespace TargetType

@[simp] theorem plain_toJson (t : TargetType) : t.toJson.Plain := by simp [toJson]

@[simp] theorem toJson_inj {t t' : TargetType} : t.toJson = t'.toJson ↔ t = t' := by
  refine ⟨fun h => ?_, congrArg toJson⟩
  have hmembers := present_inj h (by simp) (by rfl)
  have hcontainer {a b : Option Container} :
      a.map (fun c => Json.string c.label) = b.map (fun c => Json.string c.label) ↔ a = b :=
    optional_inj fun _ _ h => Container.label_injective (string.inj h)
  cases t
  cases t'
  simpa [TargetKind.label_injective.eq_iff, hcontainer] using hmembers

end TargetType

namespace Searchability

@[simp] theorem plain_toJson (s : Searchability) : s.toJson.Plain := by
  have hfields : ∀ m ∈ s.fields.entries.map fun e => (e.1.label, string e.2), m.2.Plain := by
    intro m hm
    obtain ⟨e, -, rfl⟩ := List.mem_map.1 hm
    exact plain_string e.2
  simpa [toJson, -List.mem_map] using fun _ : s.fields.isEmpty = false => hfields

@[simp] theorem toJson_inj {s s' : Searchability} : s.toJson = s'.toJson ↔ s = s' := by
  refine ⟨fun h => ?_, congrArg toJson⟩
  have hmembers := present_inj h (by simp) (by rfl)
  have hkind {a b : Option SearchKind} :
      a.map (fun k => Json.string k.label) = b.map (fun k => Json.string k.label) ↔ a = b :=
    optional_inj fun _ _ h => SearchKind.label_injective (string.inj h)
  cases s
  cases s'
  simpa [hkind, unlessEmpty_inj
    (object_entries_injective IndexKind.label_injective fun _ _ => string.inj)] using hmembers

end Searchability

/-! ### Properties -/

namespace Property

@[simp] theorem plain_toJson (p : Property) : p.toJson.Plain := by simp [toJson]

@[simp] theorem toJson_inj {p p' : Property} : p.toJson = p'.toJson ↔ p = p' := by
  refine ⟨fun h => ?_, congrArg toJson⟩
  have hmembers := present_inj h (by simp) (by rfl)
  cases p
  cases p'
  simpa using hmembers

end Property

namespace PropertySet

@[simp] theorem plain_toJson (s : PropertySet) : s.toJson.Plain :=
  plain_ofMap Property.plain_toJson _

@[simp] theorem toJson_inj {s s' : PropertySet} : s.toJson = s'.toJson ↔ s = s' := by
  refine ⟨fun h => ?_, congrArg toJson⟩
  cases s
  cases s'
  exact congrArg mk (ofMap_injective (fun _ _ => Property.toJson_inj.1) h)

end PropertySet

@[simp] theorem keyedMember_inj {names names' : KeySet String} :
    keyedMember names = keyedMember names' ↔ names = names' := by
  rw [keyedMember, keyedMember, Prod.mk.injEq, unlessEmpty_inj ofSet_injective, and_iff_right rfl]

/-! ### Classes -/

namespace EnumConstant

@[simp] theorem plain_toJson (k : EnumConstant) : k.toJson.Plain := by simp [toJson]

@[simp] theorem toJson_inj {k k' : EnumConstant} : k.toJson = k'.toJson ↔ k = k' := by
  refine ⟨fun h => ?_, congrArg toJson⟩
  have hmembers := present_inj h (by simp) (by rfl)
  cases k
  cases k'
  simpa [optional_inj int64_injective] using hmembers

end EnumConstant

namespace EnumClass

@[simp] theorem plain_toJson (e : EnumClass) : e.toJson.Plain := by simp [toJson]

@[simp] theorem toJson_inj {e e' : EnumClass} : e.toJson = e'.toJson ↔ e = e' := by
  refine ⟨fun h => ?_, congrArg toJson⟩
  have hmembers := present_inj h (by simp) (by rfl)
  have hconstants : Function.Injective (ofList EnumConstant.toJson) :=
    ofList_injective fun _ _ => EnumConstant.toJson_inj.1
  cases e
  cases e'
  simpa [hconstants.eq_iff] using hmembers

end EnumClass

namespace StructClass

@[simp] theorem plain_toJson (s : StructClass) : s.toJson.Plain := by simp [toJson, keyedMember]

@[simp] theorem toJson_inj {s s' : StructClass} : s.toJson = s'.toJson ↔ s = s' := by
  refine ⟨fun h => ?_, congrArg toJson⟩
  have hmembers := present_inj h (by simp [keyedMember]) (by rfl)
  cases s
  cases s'
  simpa using hmembers

end StructClass

namespace RoleClass

@[simp] theorem plain_toJson (r : RoleClass) : r.toJson.Plain := by simp [toJson]

@[simp] theorem toJson_inj {r r' : RoleClass} : r.toJson = r'.toJson ↔ r = r' := by
  refine ⟨fun h => ?_, congrArg toJson⟩
  have hmembers := object.inj h
  cases r
  cases r'
  simpa [Cardinality.label_injective.eq_iff] using hmembers

end RoleClass

namespace RelationshipClass

@[simp] theorem plain_toJson (r : RelationshipClass) : r.toJson.Plain := by
  simp [toJson, keyedMember]

@[simp] theorem toJson_inj {r r' : RelationshipClass} : r.toJson = r'.toJson ↔ r = r' := by
  refine ⟨fun h => ?_, congrArg toJson⟩
  have hmembers := present_inj h (by simp [keyedMember]) (by rfl)
  cases r
  cases r'
  simpa using hmembers

end RelationshipClass

namespace EntityClass

@[simp] theorem plain_toJson (e : EntityClass) : e.toJson.Plain := by
  simp [toJson, Tiers.members, keyedMember]

@[simp] theorem toJson_inj {e e' : EntityClass} : e.toJson = e'.toJson ↔ e = e' := by
  refine ⟨fun h => ?_, congrArg toJson⟩
  have hmembers := present_inj h (by simp [Tiers.members, keyedMember]) (by rfl)
  have htiers {t t' : Tiers} : t = t' ↔
      t.shown = t'.shown ∧ t.added = t'.added ∧ t.own = t'.own := by
    cases t
    cases t'
    simp
  cases e
  cases e'
  simpa [Tiers.members, htiers, and_assoc] using hmembers

end EntityClass

end TypeCatalog
