import TypeCatalog.Declared.Snapshot
import TypeCatalog.Proofs.Json.Records

/-!
Definitions are read back from their documents, also from those in which members are missing whose
fields have their default values. Main statement: `Snapshot.ofText?_of_writtenAs`.
-/

namespace TypeCatalog
open Json

/-! ### Attributes -/

namespace Indexing

@[simp] theorem plain_toJson (i : Indexing) : i.toJson.Plain := by simp [toJson]

theorem ofJson?_toJson (i : Indexing) : ofJson? i.toJson = some i := by
  obtain ⟨r, hr, h⟩ : ∃ r, i.toJson.record? ["analyzer"] = some r ∧
      r.Holds [] [("analyzer", i.analyzer.map .string)] :=
    record?_of_abridges (.refl [] _) (by simp) (List.Subset.refl _) (by simp)
  have hanalyzer : r.optional "analyzer" string? = some i.analyzer :=
    h.optionalText (by simp) (by simp)
  simp only [ofJson?, hr, hanalyzer, Option.bind_eq_bind, Option.bind_some, Option.pure_def]

end Indexing

namespace Subfield

@[simp] theorem plain_toJson (f : Subfield) : f.toJson.Plain := by simp [toJson]

theorem ofJson?_toJson (f : Subfield) : ofJson? f.toJson = some f := by
  obtain ⟨r, hr, h⟩ : ∃ r, f.toJson.record? ["type", "analyzer"] = some r ∧
      r.Holds [] [("type", some (.string f.kind)), ("analyzer", f.analyzer.map .string)] :=
    record?_of_abridges (.refl [] _) (by simp) (List.Subset.refl _) (by simp)
  have hkind : r.required "type" string? = some f.kind := h.requiredText (by simp) (by simp)
  have hanalyzer : r.optional "analyzer" string? = some f.analyzer :=
    h.optionalText (by simp) (by simp)
  simp only [ofJson?, hr, hkind, hanalyzer, Option.bind_eq_bind, Option.bind_some, Option.pure_def]

end Subfield

namespace Attribute

@[simp] theorem plain_members (a : Attribute) :
    ∀ m ∈ a.members, ∀ v, m.2 = some v → v.Plain := by
  have hsubfields : (Json.ofMap Subfield.toJson a.subfields).Plain :=
    plain_ofMap Subfield.plain_toJson _
  simp [members, hsubfields]

@[simp] theorem plain_toJson (a : Attribute) : a.toJson.Plain := plain_present.2 a.plain_members

/-- An attribute is read back from any object that has its members and no others of these names. -/
theorem ofJson?_of_members {a : Attribute} {members : List (String × Option Json)}
    (hnodup : (members.map (·.1)).Nodup) (hmembers : a.members ⊆ members) :
    ofJson? (.present members) = some a := by
  obtain ⟨r, hr, h⟩ : ∃ r, (Json.present members).record? fieldNames = some r ∧
      r.Holds [] a.members :=
    record?_of_abridges (.refl [] _) hnodup hmembers (by simp [Attribute.members, fieldNames])
  have hname : r.required "name" string? = some a.name :=
    h.requiredText (by simp [Attribute.members]) (by simp)
  have htypeName : r.required "typeName" string? = some a.typeName :=
    h.requiredText (by simp [Attribute.members]) (by simp)
  have hdescription : r.optional "description" string? = some a.description :=
    h.optionalText (by simp [Attribute.members]) (by simp)
  have hindexing : r.optional "indexTypeESConfig" Indexing.ofJson? = some a.indexing :=
    h.optional (by simp [Attribute.members]) (by simp) Indexing.ofJson?_toJson
      fun _ => Json.noConfusion
  have hsubfields : r.withDefault "indexTypeESFields" ∅ (Json.map? Subfield.ofJson?) =
      some a.subfields := by
    cases hempty : a.subfields.isEmpty with
    | true =>
      rw [KeyMap.eq_empty_of_isEmpty hempty]
      exact h.withDefault_of_none ∅ (by simp [Attribute.members, hempty])
    | false =>
      exact h.withDefault (by simp [Attribute.members, hempty])
        (map?_ofMap Subfield.ofJson?_toJson _) (by simp)
  simp only [ofJson?, hr, hname, htypeName, hdescription, hindexing, hsubfields,
    Option.bind_eq_bind, Option.bind_some, Option.pure_def]

theorem ofJson?_toJson (a : Attribute) : ofJson? a.toJson = some a :=
  ofJson?_of_members (by simp [members]) (List.Subset.refl _)

end Attribute

/-! ### Enumerations -/

namespace EnumElement

@[simp] theorem plain_toJson (e : EnumElement) : e.toJson.Plain := by
  simp [toJson]

theorem ofJson?_toJson (e : EnumElement) : ofJson? e.toJson = some e := by
  obtain ⟨r, hr, h⟩ : ∃ r, e.toJson.record? ["value", "ordinal", "description"] = some r ∧
      r.Holds [] [("value", some (.string e.value)),
        ("ordinal", e.ordinal.map fun n => .int n.toInt),
        ("description", e.description.map .string)] :=
    record?_of_abridges (.refl [] _) (by simp) (List.Subset.refl _) (by simp)
  have hvalue : r.required "value" string? = some e.value := h.requiredText (by simp) (by simp)
  have hordinal : r.optional "ordinal" int64? = some e.ordinal :=
    h.optional (by simp) (by simp) int64?_toInt fun _ => Json.noConfusion
  have hdescription : r.optional "description" string? = some e.description :=
    h.optionalText (by simp) (by simp)
  simp only [ofJson?, hr, hvalue, hordinal, hdescription, Option.bind_eq_bind, Option.bind_some,
    Option.pure_def]

end EnumElement

namespace TypeHeader
variable {d : TypeHeader} {extra : List (String × Option Json)} {spare : List (String × Json)}
  {j : Json}

/-- A header is read back from a record that holds its members, none of which may be spared. -/
theorem ofRecord?_of_holds {r : Record} (h : r.Holds spare (d.members ++ extra))
    (hkept : ∀ name ∈ fieldNames, name ∉ spare.map (·.1)) : ofRecord? r = some d := by
  have hname : r.required "name" string? = some d.name :=
    h.requiredText (by simp [members]) (hkept _ (by decide))
  have hdisplayName : r.optional "displayName" string? = some d.displayName :=
    h.optionalText (by simp [members]) (hkept _ (by decide))
  have hdescription : r.optional "description" string? = some d.description :=
    h.optionalText (by simp [members]) (hkept _ (by decide))
  have hserviceType : r.optional "serviceType" string? = some d.serviceType :=
    h.optionalText (by simp [members]) (hkept _ (by decide))
  simp only [ofRecord?, hname, hdisplayName, hdescription, hserviceType, Option.bind_eq_bind,
    Option.bind_some, Option.pure_def]

/-- The record of a definition is read out of its document, and its header is that of the
definition. -/
theorem record?_of_abridges (h : Abridges spare (.present (d.members ++ extra)) j)
    (hnodup : (fieldNames ++ extra.map (·.1)).Nodup)
    (hkept : ∀ name ∈ fieldNames, name ∉ spare.map (·.1)) :
    ∃ r, j.record? (fieldNames ++ extra.map (·.1)) = some r ∧
      r.Holds spare (d.members ++ extra) ∧ ofRecord? r = some d := by
  have hnames : (d.members ++ extra).map (·.1) = fieldNames ++ extra.map (·.1) :=
    List.map_append
  obtain ⟨r, hr, hfields⟩ := Json.record?_of_abridges h (hnames ▸ hnodup) (List.Subset.refl _)
    fun m hm => hnames ▸ List.mem_map.2 ⟨m, hm, rfl⟩
  exact ⟨r, hr, hfields, ofRecord?_of_holds hfields hkept⟩

end TypeHeader

namespace EnumType

/-- A document of an enumeration: all of its members, but maybe no list of elements if there are
none. -/
def WrittenAs (d : EnumType) (j : Json) : Prop := Abridges [("elementDefs", .array [])] d.toJson j

theorem writtenAs_toJson (d : EnumType) : d.WrittenAs d.toJson := .refl _ _

theorem WrittenAs.plain {d : EnumType} {j : Json} (h : d.WrittenAs j) : j.Plain :=
  Abridges.plain h (by simp [toJson, TypeHeader.members])

theorem ofJson?_of_writtenAs {d : EnumType} {j : Json} (h : d.WrittenAs j) :
    ofJson? j = some d := by
  obtain ⟨r, hr, hfields, hheader⟩ :
      ∃ r, j.record? (TypeHeader.fieldNames ++ ["elementDefs"]) = some r ∧ r.Holds _ _ ∧
        TypeHeader.ofRecord? r = some d.toTypeHeader :=
    TypeHeader.record?_of_abridges h (by simp [TypeHeader.fieldNames]) (by decide)
  have helements : r.withDefault "elementDefs" [] (Json.list? EnumElement.ofJson?) =
      some d.elements :=
    hfields.withDefault (by simp) (list?_ofList EnumElement.ofJson?_toJson _) (by simp [list?])
  simp only [ofJson?, hr, hheader, helements, Option.bind_eq_bind, Option.bind_some,
    Option.pure_def]

end EnumType

/-! ### Structs -/

namespace StructType

/-- A document of a struct: all of its members, but maybe no list of attributes if there are none. -/
def WrittenAs (d : StructType) (j : Json) : Prop :=
  Abridges [("attributeDefs", .array [])] d.toJson j

theorem writtenAs_toJson (d : StructType) : d.WrittenAs d.toJson := .refl _ _

theorem WrittenAs.plain {d : StructType} {j : Json} (h : d.WrittenAs j) : j.Plain :=
  Abridges.plain h (by simp [toJson, TypeHeader.members])

theorem ofJson?_of_writtenAs {d : StructType} {j : Json} (h : d.WrittenAs j) :
    ofJson? j = some d := by
  obtain ⟨r, hr, hfields, hheader⟩ :
      ∃ r, j.record? (TypeHeader.fieldNames ++ ["attributeDefs"]) = some r ∧ r.Holds _ _ ∧
        TypeHeader.ofRecord? r = some d.toTypeHeader :=
    TypeHeader.record?_of_abridges h (by simp [TypeHeader.fieldNames]) (by decide)
  have hattributes : r.withDefault "attributeDefs" [] (Json.list? Attribute.ofJson?) =
      some d.attributes :=
    hfields.withDefault (by simp) (list?_ofList Attribute.ofJson?_toJson _) (by simp [list?])
  simp only [ofJson?, hr, hheader, hattributes, Option.bind_eq_bind, Option.bind_some,
    Option.pure_def]

end StructType

/-! ### Relationships -/

theorem Cardinality.ofJson?_label (c : Cardinality) : ofJson? (.string c.label) = some c := by
  cases c <;> rfl

namespace Role

/-- The members of a role's document. -/
def members (d : Role) : List (String × Option Json) :=
  [("type", some (.string d.entity)),
   ("name", some (.string d.name)),
   ("cardinality", some (.string d.cardinality.label)),
   ("isContainer", some (.bool d.isContainer))]

/-- Those of them that may be left out, as they are by default. -/
def spare : List (String × Json) :=
  [("cardinality", .string "SINGLE"), ("isContainer", .bool false)]

/-- A document of a role: all of its members, but maybe without a cardinality or a mark that it would
have by default. -/
def WrittenAs (d : Role) (j : Json) : Prop := Abridges spare d.toJson j

theorem writtenAs_toJson (d : Role) : d.WrittenAs d.toJson := .refl _ _

theorem WrittenAs.plain {d : Role} {j : Json} (h : d.WrittenAs j) : j.Plain :=
  Abridges.plain h (by simp [toJson])

theorem ofJson?_of_writtenAs {d : Role} {j : Json} (h : d.WrittenAs j) : ofJson? j = some d := by
  have hpresent : Abridges spare (.present d.members) j := h
  obtain ⟨r, hr, hfields⟩ :
      ∃ r, j.record? ["type", "name", "cardinality", "isContainer"] = some r ∧
        r.Holds spare d.members :=
    record?_of_abridges hpresent (by simp [members]) (List.Subset.refl _) (by simp [members])
  have hentity : r.required "type" string? = some d.entity :=
    hfields.requiredText (by simp [members]) (by decide)
  have hname : r.required "name" string? = some d.name :=
    hfields.requiredText (by simp [members]) (by decide)
  have hcardinality : r.withDefault "cardinality" .single Cardinality.ofJson? =
      some d.cardinality :=
    hfields.withDefault (v := .string d.cardinality.label) (by simp [members])
      d.cardinality.ofJson?_label (by simp [spare, Cardinality.ofJson?, Cardinality.ofLabel?])
  have hcontainer : r.withDefault "isContainer" false bool? = some d.isContainer :=
    hfields.withDefault (v := .bool d.isContainer) (by simp [members]) rfl (by simp [spare, bool?])
  simp only [ofJson?, hr, hentity, hname, hcardinality, hcontainer, Option.bind_eq_bind,
    Option.bind_some, Option.pure_def]

end Role

namespace RelationshipType

/-- The members of a relationship's document in which the two ends are written as given. -/
def membersWith (d : RelationshipType) (first second : Json) : List (String × Option Json) :=
  d.members ++ [("endDef1", some first), ("endDef2", some second),
    ("attributeDefs", some (.ofList Attribute.toJson d.attributes))]

/-- A document of a relationship: all of its members, with documents of its ends, but maybe no list
of attributes if there are none. -/
def WrittenAs (d : RelationshipType) (j : Json) : Prop :=
  ∃ first second, d.first.WrittenAs first ∧ d.second.WrittenAs second ∧
    Abridges [("attributeDefs", .array [])] (.present (d.membersWith first second)) j

theorem writtenAs_toJson (d : RelationshipType) : d.WrittenAs d.toJson :=
  ⟨_, _, d.first.writtenAs_toJson, d.second.writtenAs_toJson, .refl _ _⟩

theorem WrittenAs.plain {d : RelationshipType} {j : Json} (h : d.WrittenAs j) : j.Plain := by
  obtain ⟨first, second, hfirst, hsecond, h⟩ := h
  exact h.plain (by simp [membersWith, TypeHeader.members, hfirst.plain, hsecond.plain])

theorem ofJson?_of_writtenAs {d : RelationshipType} {j : Json} (h : d.WrittenAs j) :
    ofJson? j = some d := by
  obtain ⟨first, second, hfirst, hsecond, h⟩ := h
  obtain ⟨r, hr, hfields, hheader⟩ :
      ∃ r, j.record? (TypeHeader.fieldNames ++ ["endDef1", "endDef2", "attributeDefs"]) = some r ∧
        r.Holds _ _ ∧ TypeHeader.ofRecord? r = some d.toTypeHeader :=
    TypeHeader.record?_of_abridges h (by simp [TypeHeader.fieldNames]) (by decide)
  have hend1 : r.required "endDef1" Role.ofJson? = some d.first :=
    hfields.required (by simp) (by decide) (Role.ofJson?_of_writtenAs hfirst)
  have hend2 : r.required "endDef2" Role.ofJson? = some d.second :=
    hfields.required (by simp) (by decide) (Role.ofJson?_of_writtenAs hsecond)
  have hattributes : r.withDefault "attributeDefs" [] (Json.list? Attribute.ofJson?) =
      some d.attributes :=
    hfields.withDefault (by simp) (list?_ofList Attribute.ofJson?_toJson _) (by simp [list?])
  simp only [ofJson?, hr, hheader, hend1, hend2, hattributes, Option.bind_eq_bind,
    Option.bind_some, Option.pure_def]

end RelationshipType

/-! ### Entities -/

namespace RelationshipAttribute

/-- The members of a relationship attribute's document. -/
def allMembers (a : RelationshipAttribute) : List (String × Option Json) :=
  a.members ++ [("relationshipTypeName", some (.string a.relationship))]

@[simp] theorem plain_toJson (a : RelationshipAttribute) : a.toJson.Plain := by
  refine plain_present.2 fun m hm v hv => ?_
  rcases List.mem_append.1 hm with hm | hm
  · exact a.plain_members m hm v hv
  · obtain rfl := List.mem_singleton.1 hm
    obtain rfl := Option.some.inj hv
    exact plain_string _

/-- The values of a relationship attribute can be held while it is told apart, at all but the two
deepest levels. -/
theorem holdable_members (a : RelationshipAttribute) (depth : Nat) :
    ∀ m ∈ a.allMembers, ∀ v, m.2 = some v → v.isHoldable (depth + 2) = true := by
  have hindexing : ∀ i : Indexing, i.toJson.isHoldable (depth + 2) = true :=
    fun i => isHoldable_present (by simp [isHoldable])
  have hsubfields : (Json.ofMap Subfield.toJson a.subfields).isHoldable (depth + 2) = true :=
    isHoldable_ofMap (fun f => isHoldable_present (by simp [isHoldable])) _
  simp [allMembers, Attribute.members, isHoldable, hindexing, hsubfields]

/-- A relationship attribute is read back where a greater document leaves it three levels. -/
theorem ofJson?_toJson {outer : Nat} (houter : outer + 3 ≤ maxDepth) (a : RelationshipAttribute) :
    ofJson? outer a.toJson = some a := by
  obtain ⟨depth, hdepth⟩ : ∃ depth, maxDepth - outer - 1 = depth + 2 :=
    ⟨maxDepth - outer - 3, by omega⟩
  have hnodup : (a.allMembers.map (·.1)).Nodup := by simp [allMembers, Attribute.members]
  have hattribute : Attribute.ofJson? a.toJson = some a.toAttribute :=
    Attribute.ofJson?_of_members hnodup (List.subset_append_left ..)
  obtain ⟨r, hr, h⟩ : ∃ r, a.toJson.record? ["relationshipTypeName"] = some r ∧
      r.Holds [] [("relationshipTypeName", some (.string a.relationship))] :=
    record?_of_abridges (.refl [] _) hnodup (List.subset_append_right ..) (by simp)
  have hrelationship : r.required "relationshipTypeName" string? = some a.relationship :=
    h.requiredText (by simp) (by simp)
  have hobject : a.toJson = .object (a.allMembers.filterMap fun m => m.2.map (m.1, ·)) := rfl
  have hholdable : ((a.allMembers.filterMap fun m => m.2.map (m.1, ·)).all
      fun m => m.2.isHoldable (maxDepth - outer - 1)) = true := by
    rw [List.all_eq_true]
    rintro ⟨name, v⟩ hm
    rw [hdepth]
    exact a.holdable_members depth _ (mem_present.1 hm) v rfl
  rw [hobject] at hr hattribute ⊢
  simp only [ofJson?, hholdable, if_true, hr, hattribute, hrelationship, Option.bind_eq_bind,
    Option.bind_some, Option.pure_def]

end RelationshipAttribute

namespace EntityType

/-- What may be left out of the document of an entity. -/
def spare : List (String × Json) :=
  [("attributeDefs", .array []), ("relationshipAttributeDefs", .array []),
   ("superTypes", .array []), ("subTypes", .array [])]

/-- A document of an entity: all of its members, but maybe without some of the lists that are
empty. -/
def WrittenAs (d : EntityType) (j : Json) : Prop := Abridges spare d.toJson j

theorem writtenAs_toJson (d : EntityType) : d.WrittenAs d.toJson := .refl _ _

theorem WrittenAs.plain {d : EntityType} {j : Json} (h : d.WrittenAs j) : j.Plain :=
  Abridges.plain h (by simp [toJson, TypeHeader.members])

theorem ofJson?_of_writtenAs {d : EntityType} {j : Json} {outer : Nat}
    (houter : outer + 5 ≤ maxDepth) (h : d.WrittenAs j) : ofJson? outer j = some d := by
  obtain ⟨r, hr, hfields, hheader⟩ :
      ∃ r, j.record? (TypeHeader.fieldNames
          ++ ["attributeDefs", "relationshipAttributeDefs", "superTypes", "subTypes"]) = some r ∧
        r.Holds _ _ ∧ TypeHeader.ofRecord? r = some d.toTypeHeader :=
    TypeHeader.record?_of_abridges h (by simp [TypeHeader.fieldNames]) (by decide)
  have hattributes : r.withDefault "attributeDefs" [] (Json.list? Attribute.ofJson?) =
      some d.attributes :=
    hfields.withDefault (by simp) (list?_ofList Attribute.ofJson?_toJson _)
      (by simp [spare, list?])
  have hrelationships : r.withDefault "relationshipAttributeDefs" []
      (Json.list? (RelationshipAttribute.ofJson? (outer + 2))) = some d.relationshipAttributes :=
    hfields.withDefault (by simp)
      (list?_ofList (RelationshipAttribute.ofJson?_toJson (by omega)) _) (by simp [spare, list?])
  have hsuperTypes : r.withDefault "superTypes" [] (Json.list? string?) = some d.superTypes :=
    hfields.withDefault (by simp) (list?_ofList (g := .string) (fun _ => rfl) _)
      (by simp [spare, list?])
  have hsubTypes : r.withDefault "subTypes" [] (Json.list? string?) = some d.subTypes :=
    hfields.withDefault (by simp) (list?_ofList (g := .string) (fun _ => rfl) _)
      (by simp [spare, list?])
  simp only [ofJson?, hr, hheader, hattributes, hrelationships, hsuperTypes, hsubTypes,
    Option.bind_eq_bind, Option.bind_some, Option.pure_def]

end EntityType

/-! ### Snapshots -/

namespace Snapshot

/-- What may be left out of the document of a snapshot. -/
def spare : List (String × Json) :=
  [("enumDefs", .array []), ("structDefs", .array []), ("entityDefs", .array []),
   ("relationshipDefs", .array [])]

/-- The members of a snapshot's document in which the definitions are written as given. -/
def membersWith (enums structs entities relationships : List Json) :
    List (String × Option Json) :=
  [("enumDefs", some (.array enums)), ("structDefs", some (.array structs)),
   ("entityDefs", some (.array entities)), ("relationshipDefs", some (.array relationships))]

/-- A document of a snapshot: documents of all of its definitions, but maybe without some of the
lists that are empty. -/
def WrittenAs (s : Snapshot) (j : Json) : Prop :=
  ∃ enums structs entities relationships,
    List.Forall₂ EnumType.WrittenAs s.enums enums ∧
    List.Forall₂ StructType.WrittenAs s.structs structs ∧
    List.Forall₂ EntityType.WrittenAs s.entities entities ∧
    List.Forall₂ RelationshipType.WrittenAs s.relationships relationships ∧
    Abridges spare (.present (membersWith enums structs entities relationships)) j

theorem writtenAs_toJson (s : Snapshot) : s.WrittenAs s.toJson :=
  ⟨_, _, _, _, forall₂_map EnumType.writtenAs_toJson _, forall₂_map StructType.writtenAs_toJson _,
    forall₂_map EntityType.writtenAs_toJson _, forall₂_map RelationshipType.writtenAs_toJson _,
    .refl _ _⟩

theorem WrittenAs.plain {s : Snapshot} {j : Json} (h : s.WrittenAs j) : j.Plain := by
  obtain ⟨enums, structs, entities, relationships, henums, hstructs, hentities, hrelationships, h⟩ :=
    h
  have hplain := And.intro (plain_array_of EnumType.WrittenAs.plain henums) <|
    And.intro (plain_array_of StructType.WrittenAs.plain hstructs) <|
    And.intro (plain_array_of EntityType.WrittenAs.plain hentities)
      (plain_array_of RelationshipType.WrittenAs.plain hrelationships)
  exact h.plain (by simpa [membersWith] using hplain)

theorem ofJson?_of_writtenAs {s : Snapshot} {j : Json} (h : s.WrittenAs j) :
    ofJson? j = some s := by
  obtain ⟨enums, structs, entities, relationships, henums, hstructs, hentities, hrelationships, h⟩ :=
    h
  obtain ⟨r, hr, hfields⟩ :
      ∃ r, j.record? ["enumDefs", "structDefs", "entityDefs", "relationshipDefs"] = some r ∧
        r.Holds spare (membersWith enums structs entities relationships) :=
    record?_of_abridges h (by simp [membersWith]) (List.Subset.refl _) (by simp [membersWith])
  have henumDefs : r.withDefault "enumDefs" [] (Json.list? EnumType.ofJson?) = some s.enums :=
    hfields.withDefault (by simp [membersWith])
      (list?_array (henums.imp fun _ _ => EnumType.ofJson?_of_writtenAs)) (by simp [spare, list?])
  have hstructDefs : r.withDefault "structDefs" [] (Json.list? StructType.ofJson?) =
      some s.structs :=
    hfields.withDefault (by simp [membersWith])
      (list?_array (hstructs.imp fun _ _ => StructType.ofJson?_of_writtenAs))
      (by simp [spare, list?])
  have hentityDefs : r.withDefault "entityDefs" [] (Json.list? (EntityType.ofJson? 2)) =
      some s.entities :=
    hfields.withDefault (by simp [membersWith])
      (list?_array (hentities.imp fun _ _ => EntityType.ofJson?_of_writtenAs (by decide)))
      (by simp [spare, list?])
  have hrelationshipDefs : r.withDefault "relationshipDefs" []
      (Json.list? RelationshipType.ofJson?) = some s.relationships :=
    hfields.withDefault (by simp [membersWith])
      (list?_array (hrelationships.imp fun _ _ => RelationshipType.ofJson?_of_writtenAs))
      (by simp [spare, list?])
  simp only [ofJson?, hr, henumDefs, hstructDefs, hentityDefs, hrelationshipDefs,
    Option.bind_eq_bind, Option.bind_some, Option.pure_def]

/-- A snapshot is read back from the text of each of its documents. -/
theorem ofText?_of_writtenAs {s : Snapshot} {j : Json} (h : s.WrittenAs j) :
    ofText? j.toText = some s := by
  rw [ofText?, Json.ofText?_toText h.plain, Option.bind_some, ofJson?_of_writtenAs h]

end Snapshot

end TypeCatalog
