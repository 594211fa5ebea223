import TypeCatalog.Declared.Types
import TypeCatalog.Json.Printer
import TypeCatalog.Json.Reader
import TypeCatalog.Naming
import TypeCatalog.Text.Blank

/-!
The settings of a run: the names of the types that play a special role, tables of renames and
overrides, and the rules for which definitions are generated. Every setting has a default. Four
settings must not be blank (`Config.blankSetting?`), and `Config.ofText?` accepts no others.
-/

namespace TypeCatalog

/-- The settings of a run. -/
structure Config where
  /-- The root of the inheritance graph. -/
  rootType : String := "Referenceable"
  /-- The type whose class every generated class extends. -/
  assetType : String := "Asset"
  /-- The parent class of the root and asset types. -/
  referenceClass : String := "Reference"
  /-- The only attribute that the root type passes on. -/
  identityAttribute : String := "qualifiedName"
  /-- The only relationship that the root type passes on. -/
  rootRelationship : String := "meanings"
  /-- The description of the root type if it has none of its own. -/
  rootDescription : String := "Base class for everything in the catalog."
  /-- Attributes of this type are left out of entities. -/
  internalType : String := "__internal"
  /-- Attributes of these names are left out of entities. -/
  skippedAttributes : KeySet String := .ofKeys ["inputs", "outputs"]
  /-- Class names by type name. -/
  classRenames : KeyMap String String := ∅
  /-- Property names by attribute name. -/
  attributeRenames : KeyMap String String := ∅
  /-- Constants by enumeration value. -/
  enumValueRenames : KeyMap String String := ∅
  /-- Singular forms by property name. -/
  singularForms : KeyMap String String := ∅
  /-- Replacement types by attribute name, by owning type. -/
  typeOverrides : KeyMap String (KeyMap String String) := ∅
  /-- Enumerations by the attribute name that is forced to them. -/
  enumOverrides : KeyMap String String := ∅
  /-- Searchable relationship types by attribute name. -/
  searchableRelationships : KeyMap String String := ∅
  /-- The service namespaces to generate, all if there are none here. -/
  includeServiceTypes : KeySet String := ∅
  /-- Types that are never generated. -/
  excludeTypes : KeySet String := ∅
  /-- Types that are never abstract. -/
  forceConcrete : KeySet String := ∅
  deriving DecidableEq, Repr

/-- A setting that must not be blank. -/
inductive RequiredSetting | rootType | assetType | referenceClass | identityAttribute
  deriving DecidableEq, Repr

/-- Why a text gives no configuration. -/
inductive ConfigError
  /-- The text is not JSON, or not that of a configuration. -/
  | malformed
  | blank (setting : RequiredSetting)
  deriving DecidableEq, Repr

namespace RequiredSetting

/-- The name of a setting. -/
def label : RequiredSetting → String
  | .rootType => "root_type"
  | .assetType => "asset_type"
  | .referenceClass => "reference_class"
  | .identityAttribute => "identity_attribute"

/-- The settings that must not be blank, in the order in which they are checked. -/
def all : List RequiredSetting := [.rootType, .assetType, .referenceClass, .identityAttribute]

/-- The words for a setting that is blank. -/
def message (s : RequiredSetting) : String :=
  "invalid configuration: " ++ s.label ++ " must not be empty"

end RequiredSetting

namespace Config

/-- The value of a setting that must not be blank. -/
def required (c : Config) : RequiredSetting → String
  | .rootType => c.rootType
  | .assetType => c.assetType
  | .referenceClass => c.referenceClass
  | .identityAttribute => c.identityAttribute

/-- The first setting that is blank though it must not be. -/
def blankSetting? (c : Config) : Option RequiredSetting :=
  RequiredSetting.all.find? fun s => Text.allBlank (c.required s).toList

/-! ### Changing single settings -/

/-- The configuration with a class name for a type. -/
def renameClass (c : Config) (name className : String) : Config :=
  { c with classRenames := c.classRenames.insert name className }

/-- The configuration with a property name for an attribute. -/
def renameAttribute (c : Config) (name renamed : String) : Config :=
  { c with attributeRenames := c.attributeRenames.insert name renamed }

/-- The configuration with a constant for an enumeration value. -/
def renameConstant (c : Config) (value renamed : String) : Config :=
  { c with enumValueRenames := c.enumValueRenames.insert value renamed }

/-- The configuration with a singular form for a property name. -/
def setSingular (c : Config) (name singular : String) : Config :=
  { c with singularForms := c.singularForms.insert name singular }

/-- The configuration with a replacement type for an attribute of an owning type. -/
def replaceType (c : Config) (owningType attributeName typeName : String) : Config :=
  let overrides := (c.typeOverrides.find? owningType).getD ∅
  { c with
    typeOverrides := c.typeOverrides.insert owningType (overrides.insert attributeName typeName) }

/-- The configuration with an attribute forced to an enumeration. -/
def forceEnum (c : Config) (attributeName enumName : String) : Config :=
  { c with enumOverrides := c.enumOverrides.insert attributeName enumName }

/-- The configuration with a relationship attribute searchable through a relationship. -/
def searchThrough (c : Config) (attributeName relationship : String) : Config :=
  { c with
    searchableRelationships := c.searchableRelationships.insert attributeName relationship }

/-- The configuration with a service namespace among those to generate. -/
def addService (c : Config) (serviceType : String) : Config :=
  { c with includeServiceTypes := KeySet.add c.includeServiceTypes serviceType }

/-- The configuration with a type that is never generated. -/
def exclude (c : Config) (name : String) : Config :=
  { c with excludeTypes := KeySet.add c.excludeTypes name }

/-- The configuration with a type that is never abstract. -/
def keepConcrete (c : Config) (name : String) : Config :=
  { c with forceConcrete := KeySet.add c.forceConcrete name }

/-! ### Answers -/

/-- The class name of a type. -/
def classNameOf (c : Config) (type : String) : String :=
  (c.classRenames.find? type).getD (Naming.ofClass type)

/-- The property name of an attribute. -/
def propertyNameOf (c : Config) (attributeName : String) : String :=
  (c.attributeRenames.find? attributeName).getD (Naming.ofProperty attributeName)

/-- The constant of an enumeration value. -/
def constantNameOf (c : Config) (value : String) : String :=
  (c.enumValueRenames.find? value).getD (Naming.ofConstant value)

/-- The singular form of a property name, empty if it has none. -/
def singularOf (c : Config) (propertyName : String) : String :=
  (c.singularForms.find? propertyName).getD (Naming.singular propertyName)

/-- The type that replaces an attribute's own at an owning type. -/
def replacement? (c : Config) (owningType attributeName : String) : Option String :=
  (c.typeOverrides.find? owningType).bind (·.find? attributeName)

/-- The enumeration that an attribute is forced to. -/
def forcedEnum? (c : Config) (attributeName : String) : Option String :=
  c.enumOverrides.find? attributeName

/-- The relationship through which a relationship attribute is searchable. -/
def searchableVia? (c : Config) (attributeName : String) : Option String :=
  c.searchableRelationships.find? attributeName

/-- Whether a definition is generated. -/
def includes (c : Config) (h : TypeHeader) : Bool :=
  !c.excludeTypes.contains h.name &&
    (c.includeServiceTypes.isEmpty || h.serviceType.any c.includeServiceTypes.contains)

/-- Whether a type is never abstract. -/
def forcesConcrete (c : Config) (name : String) : Bool := c.forceConcrete.contains name

/-- Whether an attribute is left out because of its name. -/
def skips (c : Config) (attributeName : String) : Bool :=
  c.skippedAttributes.contains attributeName

/-! ### Documents -/

/-- The names of the settings in a document, in order. -/
def fieldNames : List String :=
  ["root_type", "asset_type", "reference_class", "identity_attribute", "root_relationship",
   "root_description", "internal_type", "skipped_attributes", "class_renames",
   "attribute_renames", "enum_value_renames", "singular_forms", "type_overrides",
   "enum_overrides", "searchable_relationships", "include_service_types", "exclude_types",
   "force_concrete"]

/-- The document of a configuration. -/
def toJson (c : Config) : Json :=
  .object [
    ("root_type", .string c.rootType),
    ("asset_type", .string c.assetType),
    ("reference_class", .string c.referenceClass),
    ("identity_attribute", .string c.identityAttribute),
    ("root_relationship", .string c.rootRelationship),
    ("root_description", .string c.rootDescription),
    ("internal_type", .string c.internalType),
    ("skipped_attributes", .ofSet c.skippedAttributes),
    ("class_renames", .ofMap .string c.classRenames),
    ("attribute_renames", .ofMap .string c.attributeRenames),
    ("enum_value_renames", .ofMap .string c.enumValueRenames),
    ("singular_forms", .ofMap .string c.singularForms),
    ("type_overrides", .ofMap (.ofMap .string) c.typeOverrides),
    ("enum_overrides", .ofMap .string c.enumOverrides),
    ("searchable_relationships", .ofMap .string c.searchableRelationships),
    ("include_service_types", .ofSet c.includeServiceTypes),
    ("exclude_types", .ofSet c.excludeTypes),
    ("force_concrete", .ofSet c.forceConcrete)]

/-- The configuration that a document is, with settings that may be blank. -/
def ofJson? (j : Json) : Option Config := do
  let r ← j.record? fieldNames
  let d : Config := {}
  let renames := Json.map? Json.string?
  return {
    rootType := ← r.withDefault "root_type" d.rootType Json.string?
    assetType := ← r.withDefault "asset_type" d.assetType Json.string?
    referenceClass := ← r.withDefault "reference_class" d.referenceClass Json.string?
    identityAttribute := ← r.withDefault "identity_attribute" d.identityAttribute Json.string?
    rootRelationship := ← r.withDefault "root_relationship" d.rootRelationship Json.string?
    rootDescription := ← r.withDefault "root_description" d.rootDescription Json.string?
    internalType := ← r.withDefault "internal_type" d.internalType Json.string?
    skippedAttributes := ← r.withDefault "skipped_attributes" d.skippedAttributes Json.set?
    classRenames := ← r.withDefault "class_renames" ∅ renames
    attributeRenames := ← r.withDefault "attribute_renames" ∅ renames
    enumValueRenames := ← r.withDefault "enum_value_renames" ∅ renames
    singularForms := ← r.withDefault "singular_forms" ∅ renames
    typeOverrides := ← r.withDefault "type_overrides" ∅ (Json.map? renames)
    enumOverrides := ← r.withDefault "enum_overrides" ∅ renames
    searchableRelationships := ← r.withDefault "searchable_relationships" ∅ renames
    includeServiceTypes := ← r.withDefault "include_service_types" ∅ Json.set?
    excludeTypes := ← r.withDefault "exclude_types" ∅ Json.set?
    forceConcrete := ← r.withDefault "force_concrete" ∅ Json.set? }

/-- The configuration, if no setting is blank that must not be. -/
def checked (c : Config) : Except ConfigError Config :=
  match c.blankSetting? with
  | some s => .error (.blank s)
  | none => .ok c

/-- The text of a configuration. -/
def toText (c : Config) : String := c.toJson.toText

/-- The configuration that a text is. -/
def ofText? (text : String) : Except ConfigError Config :=
  match (Json.ofText? text).bind ofJson? with
  | some c => c.checked
  | none => .error .malformed

end Config

end TypeCatalog
