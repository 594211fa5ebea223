import TypeCatalog.Proofs.Class.Documents
import TypeCatalog.Report.Format

/-!
What the fingerprint of a run tells. The hashed text leaves the findings out and is that of one set
of classes only; unless two texts collide, so is its hash. Main statement:
`fingerprints_tell_classes`.
-/

namespace TypeCatalog

/-! ### Hashes in digits -/

namespace Digest.Blake3

/-- Different texts collide if their bytes have one hash. -/
def Collide (s t : String) : Prop := s ≠ t ∧ hash s.toUTF8.toList = hash t.toUTF8.toList

theorem digitChar_inj : ∀ m < 16, ∀ n < 16, Nat.digitChar m = Nat.digitChar n → m = n := by decide

theorem hexOfByte_injective : Function.Injective hexOfByte := by
  intro b b' h
  have hb := b.toNat_lt
  have hb' := b'.toNat_lt
  simp only [hexOfByte, List.cons.injEq, and_true] at h
  have hhigh : b.toNat / 16 = b'.toNat / 16 := digitChar_inj _ (by omega) _ (by omega) h.1
  have hlow : b.toNat % 16 = b'.toNat % 16 := digitChar_inj _ (by omega) _ (by omega) h.2
  exact UInt8.toNat_inj.1 (by omega)

/-- Since every byte has two digits, the digits tell the bytes. -/
theorem flatMap_hexOfByte_injective :
    Function.Injective fun bytes : List UInt8 => bytes.flatMap hexOfByte := by
  intro bytes
  induction bytes with
  | nil =>
    intro bytes' h
    cases bytes' with
    | nil => rfl
    | cons b' bytes' => cases h
  | cons b bytes ih =>
    intro bytes' h
    cases bytes' with
    | nil => cases h
    | cons b' bytes' =>
      obtain ⟨hfirst, hrest⟩ := List.append_inj h rfl
      rw [hexOfByte_injective hfirst, ih hrest]

/-- Texts that do not collide are told by their hashes. -/
theorem hexOfText_inj {s t : String} (h : ¬ Collide s t) : hexOfText s = hexOfText t ↔ s = t := by
  refine ⟨fun hhex => ?_, congrArg hexOfText⟩
  have hhash := flatMap_hexOfByte_injective (String.ofList_injective hhex)
  by_contra hne
  exact h ⟨hne, hhash⟩

end Digest.Blake3

/-! ### The hashed text -/

namespace ClassModels
variable {g g' : ClassModels}

/-- Two runs have made the same classes, whatever they found. -/
def SameClasses (g g' : ClassModels) : Prop :=
  g.enums = g'.enums ∧ g.structs = g'.structs ∧ g.relationships = g'.relationships ∧
    g.entities = g'.entities

theorem plain_classMembers (g : ClassModels) : (Json.object g.classMembers).Plain := by
  simp [classMembers, Json.plain_ofMap]

theorem classMembers_inj : g.classMembers = g'.classMembers ↔ g.SameClasses g' := by
  have henums : Function.Injective (Json.ofMap EnumClass.toJson) :=
    Json.ofMap_injective fun _ _ => EnumClass.toJson_inj.1
  have hstructs : Function.Injective (Json.ofMap StructClass.toJson) :=
    Json.ofMap_injective fun _ _ => StructClass.toJson_inj.1
  have hrelationships : Function.Injective (Json.ofMap RelationshipClass.toJson) :=
    Json.ofMap_injective fun _ _ => RelationshipClass.toJson_inj.1
  have hentities : Function.Injective (Json.ofMap EntityClass.toJson) :=
    Json.ofMap_injective fun _ _ => EntityClass.toJson_inj.1
  simp [classMembers, SameClasses, henums.eq_iff, hstructs.eq_iff, hrelationships.eq_iff,
    hentities.eq_iff]

theorem identityText_inj : g.identityText = g'.identityText ↔ g.SameClasses g' := by
  rw [← classMembers_inj]
  constructor
  · intro h
    exact Json.object.inj (Json.eq_of_toText_eq g.plain_classMembers g'.plain_classMembers h)
  · intro h
    rw [identityText, h, identityText]

end ClassModels

/-- Of any two runs the hashed texts are the same just if the classes are, whatever was found. Unless
these texts collide, the runs have one fingerprint just if they have the same classes. -/
theorem fingerprints_tell_classes (g g' : ClassModels) :
    (g.identityText = g'.identityText ↔ g.SameClasses g') ∧
      (¬ Digest.Blake3.Collide g.identityText g'.identityText →
        (Report.fingerprint g = Report.fingerprint g' ↔ g.SameClasses g')) :=
  ⟨ClassModels.identityText_inj, fun h =>
    (Digest.Blake3.hexOfText_inj h).trans ClassModels.identityText_inj⟩

/-- A finding does not change the fingerprint of a run without classes, but an enumeration does. -/
theorem enumeration_shows_in_fingerprint :
    let bare : ClassModels := {}
    let warned : ClassModels := { findings := [⟨.undefinedType, "Color", "Color", "missing"⟩] }
    let colored : ClassModels :=
      { enums := .ofList [("Color", { source := "Color", name := "Color" })] }
    Report.fingerprint bare = Report.fingerprint warned ∧
      Report.fingerprint bare ≠ Report.fingerprint colored := by
  intro bare warned colored
  have hwarned : ¬ Digest.Blake3.Collide bare.identityText warned.identityText := fun h => h.1 rfl
  have hcolored : ¬ Digest.Blake3.Collide bare.identityText colored.identityText := fun h =>
    absurd h.2 (by decide +kernel)
  refine ⟨((fingerprints_tell_classes bare warned).2 hwarned).2 ⟨rfl, rfl, rfl, rfl⟩, fun h => ?_⟩
  obtain ⟨henums, -⟩ := ((fingerprints_tell_classes bare colored).2 hcolored).1 h
  exact absurd henums (by decide)

end TypeCatalog
