import TypeCatalog.Config
import TypeCatalog.Proofs.Declared.RoundTrip

/-!
Snapshots and configurations are read back from their texts. What has its default value may be left
out of a text. Main statement: `documents_read_back`.
-/

namespace TypeCatalog
open Json

namespace Config

/-- The members of a configuration's document. -/
def settings (c : Config) : List (String × Json) :=
  match c.toJson with
  | .object ms => ms
  | _ => []

/-- A document of a configuration: all settings, but maybe without some that are as by default. -/
def WrittenAs (c : Config) (j : Json) : Prop := Abridges (settings {}) c.toJson j

theorem writtenAs_toJson (c : Config) : c.WrittenAs c.toJson := .refl _ _

theorem plain_toJson (c : Config) : c.toJson.Plain := by
  have hrenames : ∀ m : KeyMap String String, (Json.ofMap .string m).Plain := plain_ofMap plain_string
  have hoverrides : (Json.ofMap (Json.ofMap .string) c.typeOverrides).Plain :=
    plain_ofMap hrenames _
  simp [toJson, hrenames, hoverrides]

theorem names_settings (c : Config) : c.settings.map (·.1) = fieldNames := rfl

theorem nodup_fieldNames : fieldNames.Nodup := by decide

/-- A record has the settings of a configuration, of which those may be missing that are as by
default. -/
def Settings (c : Config) (r : Record) : Prop :=
  r.Holds (settings {}) (c.settings.map fun m => (m.1, some m.2))

/-- A setting is read back if all configurations write it in the same way. -/
theorem Settings.read {c : Config} {r : Record} {α : Type} {f : Json → Option α} {g : α → Json}
    (h : c.Settings r) (name : String) (setting : Config → α)
    (hwritten : ∀ c : Config, (name, g (setting c)) ∈ c.settings) (hg : ∀ a, f (g a) = some a) :
    r.withDefault name (setting {}) f = some (setting c) :=
  h.withDefault_of_default (List.mem_map.2 ⟨_, hwritten c, rfl⟩) (hwritten {})
    (names_settings {} ▸ nodup_fieldNames) hg

theorem ofJson?_of_writtenAs {c : Config} {j : Json} (h : c.WrittenAs j) : ofJson? j = some c := by
  have hpresent : Abridges (settings {}) (.present (c.settings.map fun m => (m.1, some m.2))) j :=
    (present_some c.settings).symm ▸ h
  have hnames : (c.settings.map fun m => (m.1, some m.2)).map (·.1) = fieldNames := rfl
  obtain ⟨r, hr, hsettings⟩ : ∃ r, j.record? fieldNames = some r ∧ c.Settings r :=
    record?_of_abridges hpresent (hnames ▸ nodup_fieldNames) (List.Subset.refl _)
      fun m hm => hnames ▸ List.mem_map.2 ⟨m, hm, rfl⟩
  have htext : ∀ s : String, string? (.string s) = some s := fun _ => rfl
  have hrenames : ∀ m : KeyMap String String, map? string? (.ofMap .string m) = some m :=
    map?_ofMap htext
  -- one field after another, in the order in which they are read
  rw [ofJson?]
  refine Option.bind_eq_some_iff.2 ⟨r, hr, ?_⟩
  refine Option.bind_eq_some_iff.2 ⟨_, hsettings.read "root_type" (·.rootType)
    (by simp [settings, toJson]) htext, ?_⟩
  refine Option.bind_eq_some_iff.2 ⟨_, hsettings.read "asset_type" (·.assetType)
    (by simp [settings, toJson]) htext, ?_⟩
  refine Option.bind_eq_some_iff.2 ⟨_, hsettings.read "reference_class" (·.referenceClass)
    (by simp [settings, toJson]) htext, ?_⟩
  refine Option.bind_eq_some_iff.2 ⟨_, hsettings.read "identity_attribute" (·.identityAttribute)
    (by simp [settings, toJson]) htext, ?_⟩
  refine Option.bind_eq_some_iff.2 ⟨_, hsettings.read "root_relationship" (·.rootRelationship)
    (by simp [settings, toJson]) htext, ?_⟩
  refine Option.bind_eq_some_iff.2 ⟨_, hsettings.read "root_description" (·.rootDescription)
    (by simp [settings, toJson]) htext, ?_⟩
  refine Option.bind_eq_some_iff.2 ⟨_, hsettings.read "internal_type" (·.internalType)
    (by simp [settings, toJson]) htext, ?_⟩
  refine Option.bind_eq_some_iff.2 ⟨_, hsettings.read "skipped_attributes" (·.skippedAttributes)
    (by simp [settings, toJson]) set?_ofSet, ?_⟩
  refine Option.bind_eq_some_iff.2 ⟨_, hsettings.read "class_renames" (·.classRenames)
    (by simp [settings, toJson]) hrenames, ?_⟩
  refine Option.bind_eq_some_iff.2 ⟨_, hsettings.read "attribute_renames" (·.attributeRenames)
    (by simp [settings, toJson]) hrenames, ?_⟩
  refine Option.bind_eq_some_iff.2 ⟨_, hsettings.read "enum_value_renames" (·.enumValueRenames)
    (by simp [settings, toJson]) hrenames, ?_⟩
  refine Option.bind_eq_some_iff.2 ⟨_, hsettings.read "singular_forms" (·.singularForms)
    (by simp [settings, toJson]) hrenames, ?_⟩
  refine Option.bind_eq_some_iff.2 ⟨_, hsettings.read "type_overrides" (·.typeOverrides)
    (by simp [settings, toJson]) (map?_ofMap hrenames), ?_⟩
  refine Option.bind_eq_some_iff.2 ⟨_, hsettings.read "enum_overrides" (·.enumOverrides)
    (by simp [settings, toJson]) hrenames, ?_⟩
  refine Option.bind_eq_some_iff.2 ⟨_, hsettings.read "searchable_relationships" (·.searchableRelationships)
    (by simp [settings, toJson]) hrenames, ?_⟩
  refine Option.bind_eq_some_iff.2 ⟨_, hsettings.read "include_service_types" (·.includeServiceTypes)
    (by simp [settings, toJson]) set?_ofSet, ?_⟩
  refine Option.bind_eq_some_iff.2 ⟨_, hsettings.read "exclude_types" (·.excludeTypes)
    (by simp [settings, toJson]) set?_ofSet, ?_⟩
  refine Option.bind_eq_some_iff.2 ⟨_, hsettings.read "force_concrete" (·.forceConcrete)
    (by simp [settings, toJson]) set?_ofSet, ?_⟩
  rfl

/-- The text of each document of a configuration gives the configuration, or the first setting that is
blank though it must not be. -/
theorem ofText?_of_writtenAs {c : Config} {j : Json} (h : c.WrittenAs j) :
    ofText? j.toText = c.blankSetting?.elim (.ok c) fun s => .error (.blank s) := by
  rw [ofText?, Json.ofText?_toText (Abridges.plain h c.plain_toJson), Option.bind_some,
    ofJson?_of_writtenAs h]
  simp only [checked]
  cases c.blankSetting? <;> rfl

end Config

/-- Every snapshot is read back from its text, and every configuration is unless a setting is blank
that must not be, whatever characters and numbers they have. Of a text members may be left out that
have their default value, at whatever level: the same is read. -/
theorem documents_read_back (s : Snapshot) (c : Config) :
    (Snapshot.ofText? s.toText = some s ∧
      ∀ j, s.WrittenAs j → Snapshot.ofText? j.toText = some s) ∧
    Config.ofText? c.toText = c.blankSetting?.elim (.ok c) (fun s => .error (.blank s)) ∧
      ∀ j, c.WrittenAs j → Config.ofText? j.toText = Config.ofText? c.toText := by
  have hconfig := Config.ofText?_of_writtenAs c.writtenAs_toJson
  exact ⟨⟨Snapshot.ofText?_of_writtenAs s.writtenAs_toJson, fun j => Snapshot.ofText?_of_writtenAs⟩,
    hconfig, fun j h => (Config.ofText?_of_writtenAs h).trans hconfig.symm⟩

/-- A relationship that is as by default but for one cardinality, and an enumeration whose name has to
be escaped. -/
def oddNames : Snapshot where
  enums := [{ name := "a\"b\\c\né", elements := [{ value := "x", ordinal := some Int64.minValue }] }]
  relationships := [
    { name := "asset_assets", first := .one "Asset" "source", second := .many "Asset" "targets" }]

/-- The document of the relationship without all that may be left out. -/
def bareRelationship : Json :=
  .object [
    ("name", .string "asset_assets"),
    ("endDef1", .object [("type", .string "Asset"), ("name", .string "source")]),
    ("endDef2", .object [("type", .string "Asset"), ("name", .string "targets"),
      ("cardinality", .string "SET")])]

theorem bareRelationship_written :
    RelationshipType.WrittenAs
      { name := "asset_assets", first := .one "Asset" "source", second := .many "Asset" "targets" }
      bareRelationship := by
  have hfirst : (Role.one "Asset" "source").WrittenAs
      (.object [("type", .string "Asset"), ("name", .string "source")]) :=
    ⟨_, _, rfl, rfl, .cons_cons _ (.cons_cons _ (.cons _ (.cons _ .slnil))),
      by simp [Role.one, Role.spare, Cardinality.label]⟩
  have hsecond : (Role.many "Asset" "targets").WrittenAs
      (.object [("type", .string "Asset"), ("name", .string "targets"),
        ("cardinality", .string "SET")]) :=
    ⟨_, _, rfl, rfl, .cons_cons _ (.cons_cons _ (.cons_cons _ (.cons _ .slnil))),
      by simp [Role.many, Role.spare, Cardinality.label]⟩
  exact ⟨_, _, hfirst, hsecond, _, _, rfl, rfl,
    .cons_cons _ (.cons_cons _ (.cons_cons _ (.cons _ .slnil))),
    by simp [RelationshipType.membersWith, TypeHeader.members, Json.ofList]⟩

/-- The document of the snapshot without the lists that are empty. -/
def bareOddNames : Json :=
  .object [
    ("enumDefs", .array (oddNames.enums.map EnumType.toJson)),
    ("relationshipDefs", .array [bareRelationship])]

theorem bareOddNames_written : oddNames.WrittenAs bareOddNames :=
  ⟨_, [], [], _, .cons (EnumType.writtenAs_toJson _) .nil, .nil, .nil,
    .cons bareRelationship_written .nil, _, _, rfl, rfl,
    .cons_cons _ (.cons _ (.cons _ (.cons_cons _ .slnil))),
    by simp [Snapshot.membersWith, Snapshot.spare, oddNames]⟩

/-- The bare document gives the same as the full one. A configuration with a blank setting that must
not be blank is not read. -/
theorem bare_oddNames_read_back :
    (Snapshot.ofText? oddNames.toText = some oddNames ∧
      Snapshot.ofText? bareOddNames.toText = some oddNames) ∧
    Config.ofText? (Config.toText { assetType := " " }) = .error (.blank .assetType) :=
  ⟨⟨(documents_read_back oddNames {}).1.1,
      (documents_read_back oddNames {}).1.2 _ bareOddNames_written⟩,
    (documents_read_back oddNames { assetType := " " }).2.1.trans (by decide)⟩

end TypeCatalog
