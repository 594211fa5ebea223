import TypeCatalog.Json.Basic

/-!
Findings: what a run notices without being stopped by it, such as conflicts, references that lead
nowhere, and cycles. A `Log` keeps every finding with its repetitions; its `listing` is sorted and
without repetitions, so that it does not show in which order the work was done.
-/

namespace TypeCatalog

/-- What a finding is about. -/
inductive FindingKind
  /-- Two definitions competed for one name, and the first was kept. -/
  | conflict
  /-- One attribute is indexed in the same way twice. -/
  | repeatedIndex
  /-- A type refers to one that is not there. -/
  | danglingReference
  /-- The ways in which an attribute is indexed do not go together. -/
  | unknownCombination
  /-- A type that is looked up has no definition. -/
  | undefinedType
  /-- The inheritance graph leads back to a type on the path. -/
  | cyclicInheritance
  deriving DecidableEq, Repr

namespace FindingKind

/-- The position of a kind in a sorted list of findings. -/
def rank : FindingKind → Nat
  | .conflict => 0
  | .repeatedIndex => 1
  | .danglingReference => 2
  | .unknownCombination => 3
  | .undefinedType => 4
  | .cyclicInheritance => 5

/-- The name of a kind in a document. -/
def label : FindingKind → String
  | .conflict => "conflict"
  | .repeatedIndex => "duplicate_index_type"
  | .danglingReference => "unresolved_reference"
  | .unknownCombination => "unhandled_search_combination"
  | .undefinedType => "missing_definition"
  | .cyclicInheritance => "inheritance_cycle"

/-- The words for a kind. -/
def words : FindingKind → String
  | .conflict => "conflict"
  | .repeatedIndex => "duplicate index type"
  | .danglingReference => "unresolved reference"
  | .unknownCombination => "unhandled search combination"
  | .undefinedType => "missing definition"
  | .cyclicInheritance => "inheritance cycle"

/-- All kinds, by rank. -/
def all : List FindingKind :=
  [.conflict, .repeatedIndex, .danglingReference, .unknownCombination, .undefinedType,
   .cyclicInheritance]

/-- The kind with a given name. -/
def ofLabel? (label : String) : Option FindingKind := all.find? (·.label = label)

theorem rank_injective {a b : FindingKind} (h : a.rank = b.rank) : a = b := by
  cases a <;> cases b <;> first | rfl | cases h

end FindingKind

/-- A finding about a subject, such as an attribute or another type, of an owning type. -/
structure Finding where
  kind : FindingKind
  owner : String
  subject : String
  detail : String
  deriving DecidableEq, Repr

namespace Finding

/-- Findings are ordered by kind, then owner, subject and detail. -/
instance : Ord Finding where
  compare a b :=
    (compare a.kind.rank b.kind.rank).then <| (compare a.owner b.owner).then <|
      (compare a.subject b.subject).then (compare a.detail b.detail)

/-- A finding on one line. -/
def toLine (f : Finding) : String :=
  f.kind.words ++ ": " ++ f.owner ++ "." ++ f.subject ++ ": " ++ f.detail

/-- The document of a finding. -/
def toJson (f : Finding) : Json :=
  .object [
    ("kind", .string f.kind.label),
    ("owner", .string f.owner),
    ("subject", .string f.subject),
    ("detail", .string f.detail)]

end Finding

/-- Everything found so far, the latest finding first. -/
structure Log where
  entries : List Finding := []
  deriving DecidableEq, Repr

namespace Log

/-- The log with one more finding. -/
def add (log : Log) (f : Finding) : Log := ⟨f :: log.entries⟩

/-- The log with more findings, in order. -/
def addAll (log : Log) (fs : List Finding) : Log := fs.foldl add log

/-- The number of findings, repetitions counted. -/
def size (log : Log) : Nat := log.entries.length

/-- Whether nothing was found. -/
def isEmpty (log : Log) : Bool := log.entries.isEmpty

/-- The number of findings of one kind, repetitions counted. -/
def countOf (log : Log) (kind : FindingKind) : Nat :=
  log.entries.countP fun f => f.kind = kind

/-- A list without those elements that equal their successor. -/
def dropRepeats : List Finding → List Finding
  | f :: g :: rest => if f = g then dropRepeats (g :: rest) else f :: dropRepeats (g :: rest)
  | fs => fs

/-- The findings in order, each once. -/
def listing (log : Log) : List Finding :=
  dropRepeats (log.entries.mergeSort fun a b => (compare a b).isLE)

end Log

end TypeCatalog
