import TypeCatalog.Catalog
import TypeCatalog.Class.Basic
import TypeCatalog.Class.Entity
import TypeCatalog.Class.Making
import TypeCatalog.Class.Property
import TypeCatalog.Class.Registry
import TypeCatalog.Class.Roster
import TypeCatalog.CommandLine
import TypeCatalog.Config
import TypeCatalog.Declared.Attribute
import TypeCatalog.Declared.Snapshot
import TypeCatalog.Declared.Types
import TypeCatalog.Digest.Blake3
import TypeCatalog.Finding
import TypeCatalog.Folder
import TypeCatalog.Generation
import TypeCatalog.Inheritance.Answers
import TypeCatalog.Inheritance.Ascent
import TypeCatalog.Inheritance.Closure
import TypeCatalog.Inheritance.Lineage
import TypeCatalog.Inheritance.Path
import TypeCatalog.Inheritance.Store
import TypeCatalog.Json.Basic
import TypeCatalog.Json.Numeral
import TypeCatalog.Json.Printer
import TypeCatalog.Json.Reader
import TypeCatalog.Json.Record
import TypeCatalog.KeyMap
import TypeCatalog.Main
import TypeCatalog.Naming
import TypeCatalog.Proofs.Catalog
import TypeCatalog.Proofs.Class.Alike
import TypeCatalog.Proofs.Class.Constants
import TypeCatalog.Proofs.Class.Containers
import TypeCatalog.Proofs.Class.Documents
import TypeCatalog.Proofs.Class.Entity
import TypeCatalog.Proofs.Class.Findings
import TypeCatalog.Proofs.Class.Insertions
import TypeCatalog.Proofs.Class.Names
import TypeCatalog.Proofs.Class.Own
import TypeCatalog.Proofs.Class.Primitives
import TypeCatalog.Proofs.Class.PropertySets
import TypeCatalog.Proofs.Class.Provenance
import TypeCatalog.Proofs.Class.Relationships
import TypeCatalog.Proofs.Class.Remaking
import TypeCatalog.Proofs.Class.Roster
import TypeCatalog.Proofs.Class.Tiers
import TypeCatalog.Proofs.Class.Typing
import TypeCatalog.Proofs.Declared.RoundTrip
import TypeCatalog.Proofs.Documents
import TypeCatalog.Proofs.Finding.Listing
import TypeCatalog.Proofs.Finding.Order
import TypeCatalog.Proofs.Generation.Findings
import TypeCatalog.Proofs.Generation.Groundwork
import TypeCatalog.Proofs.Generation.Hierarchy
import TypeCatalog.Proofs.Generation.Keeping
import TypeCatalog.Proofs.Generation.Keyed
import TypeCatalog.Proofs.Generation.Rearrangement
import TypeCatalog.Proofs.Generation.Replacement
import TypeCatalog.Proofs.Generation.Runs
import TypeCatalog.Proofs.Generation.SameCalls
import TypeCatalog.Proofs.Generation.Screening
import TypeCatalog.Proofs.Generation.Selection
import TypeCatalog.Proofs.Generation.SuperTypeOrder
import TypeCatalog.Proofs.Generation.Typing
import TypeCatalog.Proofs.Generation.Workers
import TypeCatalog.Proofs.Inheritance.Accounting
import TypeCatalog.Proofs.Inheritance.Additions
import TypeCatalog.Proofs.Inheritance.Answers
import TypeCatalog.Proofs.Inheritance.Climb
import TypeCatalog.Proofs.Inheritance.Coverage
import TypeCatalog.Proofs.Inheritance.Cycles
import TypeCatalog.Proofs.Inheritance.Depth
import TypeCatalog.Proofs.Inheritance.DepthFirst
import TypeCatalog.Proofs.Inheritance.History
import TypeCatalog.Proofs.Inheritance.Introduction
import TypeCatalog.Proofs.Inheritance.Locality
import TypeCatalog.Proofs.Inheritance.Memory
import TypeCatalog.Proofs.Inheritance.Monotone
import TypeCatalog.Proofs.Inheritance.SuperTypes
import TypeCatalog.Proofs.Inheritance.Visibility
import TypeCatalog.Proofs.Interference
import TypeCatalog.Proofs.Json.Literals
import TypeCatalog.Proofs.Json.Records
import TypeCatalog.Proofs.Json.RoundTrip
import TypeCatalog.Proofs.KeyMap
import TypeCatalog.Proofs.Naming
import TypeCatalog.Proofs.Report.Csv
import TypeCatalog.Proofs.Report.Fingerprint
import TypeCatalog.Proofs.Searchability
import TypeCatalog.Proofs.Text.ByteOrder
import TypeCatalog.Proofs.Text.Letters
import TypeCatalog.Proofs.TypeName
import TypeCatalog.Report.Csv
import TypeCatalog.Report.Format
import TypeCatalog.Report.Table
import TypeCatalog.Searchability
import TypeCatalog.TargetType
import TypeCatalog.Text.Advance
import TypeCatalog.Text.Alphanumeric
import TypeCatalog.Text.Blank
import TypeCatalog.Text.Casing
import TypeCatalog.Text.CodePoints
import TypeCatalog.Text.Columns
import TypeCatalog.Text.Emoji
import TypeCatalog.Text.Identifier
import TypeCatalog.Text.LetterCase
import TypeCatalog.Text.Ligature
import TypeCatalog.TypeName
import TypeCatalog.Work
