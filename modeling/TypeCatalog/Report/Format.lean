import TypeCatalog.Digest.Blake3
import TypeCatalog.Generation
import TypeCatalog.Report.Csv
import TypeCatalog.Report.Table

/-!
The forms in which the outcome of a run is shown: a table with a row for each entity, all classes
as JSON, or comma-separated records. Findings are shown in the same forms.
-/

namespace TypeCatalog.Report

/-- A form of output. -/
inductive Format | table | json | csv
  deriving DecidableEq, Repr

namespace Format

/-- The name of a form. -/
def label : Format → String
  | .table => "table"
  | .json => "json"
  | .csv => "csv"

/-- The form of a given name. -/
def ofLabel? (label : String) : Option Format :=
  [Format.table, .json, .csv].find? (·.label = label)

end Format

/-- A truth value as a word. -/
def wordOfBool : Bool → String
  | true => "true"
  | false => "false"

/-- A count in decimal digits. -/
def digitsOf (n : Nat) : String := String.ofList (Json.digits n)

/-- What a row tells of an entity's class. -/
def rowOfEntity (e : EntityClass) : List String :=
  [e.source, e.name, e.parent.getD "", wordOfBool e.isAbstract,
   digitsOf e.attributes.shown.size, digitsOf e.relationships.shown.size]

/-- What a row tells of a finding. -/
def rowOfFinding (f : Finding) : List String := [f.kind.words, f.owner, f.subject, f.detail]

/-- The line that counts the classes. -/
def summary (g : ClassModels) : String :=
  digitsOf g.enums.size ++ " enums, " ++ digitsOf g.structs.size ++ " structs, "
    ++ digitsOf g.relationships.size ++ " relationships, " ++ digitsOf g.entities.size ++ " entities"

/-- The classes of a run in a form. -/
def ofModels (g : ClassModels) : Format → String
  | .table =>
    if g.isEmpty then "No models"
    else
      Table.render ["Entity", "Class", "Parent", "Abstract", "Attributes", "Relationships"]
        (g.entities.values.map rowOfEntity) ++ "\n" ++ summary g
  | .json => g.toJson.toIndentedText
  | .csv =>
    Csv.text (["entity", "class", "parent", "abstract", "attributes", "relationships"]
      :: g.entities.values.map rowOfEntity)

/-- Findings in a form. -/
def ofFindings (fs : List Finding) : Format → String
  | .table =>
    if fs.isEmpty then "No diagnostics"
    else Table.render ["Kind", "Owner", "Subject", "Detail"] (fs.map rowOfFinding)
  | .json => (Json.ofList Finding.toJson fs).toIndentedText
  | .csv => Csv.text (["kind", "owner", "subject", "detail"] :: fs.map rowOfFinding)

/-- The hash by which the classes of two runs are compared; it leaves the findings out. -/
def fingerprint (g : ClassModels) : String := Digest.Blake3.hexOfText g.identityText

end TypeCatalog.Report
