import Mathlib.Data.List.Basic
import TypeCatalog.Proofs.Json.Literals
import TypeCatalog.Report.Format

/-!
Comma-separated records are read back, but for one character: a field that ends its record without
quotation marks loses a carriage return at its end, which is taken for a part of the line break. Rows
of entities never end in one, findings may. Main statements: `field?_field`, `recordsFrom?_record`,
`records?_text` and `records_read_back`.
-/

namespace TypeCatalog.Report
namespace Csv
variable {cs f rest : List Char}

/-! ### Plain fields -/

/-- A character that is neither a comma nor a line break, nor a carriage return before a line
break, belongs to a plain field. -/
theorem plainField_cons {c : Char} (hcomma : c ≠ ',') (hbreak : c ≠ '\n')
    (hreturn : c = '\r' → cs.head? ≠ some '\n') :
    plainField (c :: cs) = (c :: (plainField cs).1, (plainField cs).2) := by
  rw [plainField]
  · exact hcomma
  · exact hbreak
  · rintro more hc rfl
    exact hreturn hc rfl

/-- Characters that need no quotes are read as they are, up to what follows them. -/
theorem plainField_append (hplain : needsQuotes f = false)
    (hreturn : f.getLast? = some '\r' → rest.head? ≠ some '\n') :
    plainField (f ++ rest) = (f ++ (plainField rest).1, (plainField rest).2) := by
  induction f with
  | nil => rfl
  | cons c f ih =>
    simp only [needsQuotes, List.any_cons, Bool.or_eq_false_iff, decide_eq_false_iff_not] at hplain
    obtain ⟨⟨⟨hcomma, -⟩, hbreak⟩, hplain⟩ := hplain
    have hnext : c = '\r' → (f ++ rest).head? ≠ some '\n' := by
      rintro rfl
      cases f with
      | nil => exact hreturn rfl
      | cons d f =>
        simp only [List.any_cons, Bool.or_eq_false_iff, decide_eq_false_iff_not] at hplain
        simpa using hplain.1.2
    have hlast : f.getLast? = some '\r' → rest.head? ≠ some '\n' := fun h =>
      hreturn (by rw [List.getLast?_cons, h]; rfl)
    rw [List.cons_append, plainField_cons hcomma hbreak hnext, ih hplain hlast]
    rfl

/-- What is read of a plain field that a line break follows: a carriage return at its end belongs to
the line break. -/
def withoutReturn (f : List Char) : List Char :=
  if f.getLast? = some '\r' then f.dropLast else f

theorem plainField_comma (hplain : needsQuotes f = false) (rest : List Char) :
    plainField (f ++ ',' :: rest) = (f, .comma, rest) := by
  rw [plainField_append hplain fun _ => by simp]
  simp [plainField]

theorem plainField_lineBreak (hplain : needsQuotes f = false) (rest : List Char) :
    plainField (f ++ '\n' :: rest) = (withoutReturn f, .lineBreak, rest) := by
  by_cases hlast : f.getLast? = some '\r'
  · obtain ⟨g, rfl⟩ := List.getLast?_eq_some_iff.1 hlast
    have hg : needsQuotes g = false := by
      simp only [needsQuotes, List.any_append, Bool.or_eq_false_iff] at hplain
      exact hplain.1
    rw [List.append_assoc, List.singleton_append, plainField_append hg fun _ => by simp]
    simp [plainField, withoutReturn]
  · rw [plainField_append hplain fun h => absurd h hlast, withoutReturn, if_neg hlast]
    simp [plainField]

/-! ### Quoted fields -/

/-- A quoted field ends at the first quotation mark that is not doubled. -/
theorem quotedField?_doubleQuotes (f : List Char) (hrest : rest.head? ≠ some '"') :
    quotedField? (doubleQuotes f ++ '"' :: rest) = (fieldEnd? rest).map fun more => (f, more) := by
  induction f with
  | nil =>
    rw [doubleQuotes, List.nil_append, quotedField?]
    rintro more rfl
    exact hrest rfl
  | cons c f ih =>
    rw [doubleQuotes]
    split
    next hc =>
      rw [hc, List.cons_append, List.cons_append, quotedField?, ih, Option.map_map]
      rfl
    next hc =>
      rw [List.cons_append, quotedField?, ih, Option.map_map]
      · rfl
      · exact fun _ h => absurd h hc
      · exact hc

/-! ### Fields -/

/-- What is read of a field that ends its record. -/
def lastRead (f : List Char) : List Char := if needsQuotes f then f else withoutReturn f

theorem field?_plain (h : cs.head? ≠ some '"') : field? cs = some (plainField cs) := by
  rw [field?]
  rintro more rfl
  exact h rfl

/-- A written field is read back if a comma follows it, and up to a carriage return if a line break
does. -/
theorem field?_field (f rest : List Char) :
    field? (field f ++ ',' :: rest) = some (f, .comma, rest) ∧
      field? (field f ++ '\n' :: rest) = some (lastRead f, .lineBreak, rest) := by
  rw [field, lastRead]
  cases hquotes : needsQuotes f with
  | true =>
    have hquoted : ∀ more, '"' :: doubleQuotes f ++ ['"'] ++ more =
        '"' :: (doubleQuotes f ++ '"' :: more) := by simp
    simp only [if_pos, hquoted, field?]
    rw [quotedField?_doubleQuotes f (by simp), quotedField?_doubleQuotes f (by simp)]
    exact ⟨rfl, rfl⟩
  | false =>
    have hstart : ∀ d more, d ≠ '"' → (f ++ d :: more).head? ≠ some '"' := by
      intro d more hd
      cases f with
      | nil => simpa using hd
      | cons c f =>
        simp only [needsQuotes, List.any_cons, Bool.or_eq_false_iff, decide_eq_false_iff_not]
          at hquotes
        simpa using hquotes.1.1.2
    simp only [Bool.false_eq_true, if_false]
    rw [field?_plain (hstart ',' rest (by decide)), field?_plain (hstart '\n' rest (by decide)),
      plainField_comma hquotes, plainField_lineBreak hquotes]
    exact ⟨rfl, rfl⟩

/-! ### Records -/

/-- A field that ends its record, as it is read. -/
def lastField (f : String) : String := String.ofList (lastRead f.toList)

/-- The fields of a record, as they are read. -/
def readRecord : List String → List String
  | [] => []
  | [f] => [lastField f]
  | f :: g :: more => f :: readRecord (g :: more)

theorem record_singleton (f : String) : record [f] = field f.toList ++ ['\n'] := by
  simp [record]

theorem record_cons (f g : String) (more : List String) :
    record (f :: g :: more) = field f.toList ++ ',' :: record (g :: more) := by
  simp [record, List.intercalate_cons_cons]

/-- A record is read with one unit of fuel for each of its fields. What follows it starts another
record. -/
theorem recordsFrom?_record {r : List String} (hr : r ≠ []) (fuel : Nat) (before : List String)
    (rest : List Char) :
    recordsFrom? (fuel + r.length) before (record r ++ rest) =
      if rest.isEmpty then some [before ++ readRecord r]
      else (recordsFrom? fuel [] rest).map ((before ++ readRecord r) :: ·) := by
  induction r generalizing before with
  | nil => exact absurd rfl hr
  | cons f r ih =>
    cases r with
    | nil =>
      have hread := (field?_field f.toList rest).2
      rw [List.length_singleton, recordsFrom?, record_singleton, List.append_assoc,
        List.singleton_append, hread]
      rfl
    | cons g more =>
      have hread := (field?_field f.toList (record (g :: more) ++ rest)).1
      have hnext := ih (List.cons_ne_nil g more) (before ++ [f])
      rw [List.length_cons, ← Nat.add_assoc, recordsFrom?, record_cons, List.append_assoc,
        List.cons_append, hread]
      simp only [String.ofList_toList]
      rw [hnext, readRecord, List.append_assoc, List.singleton_append]

theorem record_ne_nil (r : List String) : record r ≠ [] := by
  simp [record]

/-- Every field takes at least the character that ends it. -/
theorem length_le_length_record (r : List String) : r.length ≤ (record r).length := by
  induction r with
  | nil => exact Nat.zero_le _
  | cons f r ih =>
    cases r with
    | nil => simp [record_singleton]
    | cons g more =>
      rw [record_cons, List.length_append]
      simp only [List.length_cons] at ih ⊢
      omega

theorem length_flatten_le_length_records (rs : List (List String)) :
    rs.flatten.length ≤ (rs.flatMap record).length := by
  induction rs with
  | nil => exact Nat.zero_le _
  | cons r rs ih =>
    have hr := length_le_length_record r
    rw [List.flatten_cons, List.length_append, List.flatMap_cons, List.length_append]
    omega

/-- Records are read one after another, each with one unit of fuel for each of its fields. -/
theorem recordsFrom?_records {rs : List (List String)} (hsome : rs ≠ [])
    (hrs : ∀ r ∈ rs, r ≠ []) (fuel : Nat) :
    recordsFrom? (fuel + rs.flatten.length) [] (rs.flatMap record) =
      some (rs.map readRecord) := by
  induction rs with
  | nil => exact absurd rfl hsome
  | cons r rs ih =>
    obtain ⟨hr, hrest⟩ := List.forall_mem_cons.1 hrs
    rw [List.flatten_cons, List.length_append, Nat.add_comm r.length, ← Nat.add_assoc,
      List.flatMap_cons, recordsFrom?_record hr]
    cases rs with
    | nil => rfl
    | cons next more =>
      have hmore : (List.flatMap record (next :: more)).isEmpty = false := by
        simp [record_ne_nil]
      rw [hmore, ih (List.cons_ne_nil next more) hrest]
      rfl

/-- The text of records that have fields is read back as these records. -/
theorem records?_text {rs : List (List String)} (hrs : ∀ r ∈ rs, r ≠ []) :
    records? (text rs) = some (rs.map readRecord) := by
  cases rs with
  | nil => rfl
  | cons r rs =>
    have hlength : (r :: rs).flatten.length ≤ (text (r :: rs)).toList.length := by
      rw [text, String.toList_ofList]
      exact length_flatten_le_length_records (r :: rs)
    obtain ⟨fuel, hfuel⟩ : ∃ fuel, (text (r :: rs)).toList.length + 1 =
        fuel + (r :: rs).flatten.length :=
      Nat.exists_eq_add_of_le' (Nat.le_succ_of_le hlength)
    have hsome : (text (r :: rs)).isEmpty = false := by
      simp [text, record_ne_nil]
    rw [records?, hsome, if_neg Bool.false_ne_true, hfuel, text, String.toList_ofList]
    exact recordsFrom?_records (List.cons_ne_nil r rs) hrs fuel

end Csv

/-! ### Reports -/

/-- The columns of a report on entities. -/
def entityColumns : List String :=
  ["entity", "class", "parent", "abstract", "attributes", "relationships"]

/-- The columns of a report on findings. -/
def findingColumns : List String := ["kind", "owner", "subject", "detail"]

/-- What is read of a finding's row. -/
def readRowOfFinding (f : Finding) : List String :=
  [f.kind.words, f.owner, f.subject, Csv.lastField f.detail]

/-- A text loses a carriage return if it ends a record: it is not quoted, and ends in one. -/
def LosesReturn (s : String) : Prop :=
  Csv.needsQuotes s.toList = false ∧ s.toList.getLast? = some '\r'

theorem lastField_eq_self_iff {s : String} : Csv.lastField s = s ↔ ¬ LosesReturn s := by
  rw [← String.toList_inj, Csv.lastField, String.toList_ofList, Csv.lastRead, LosesReturn,
    Csv.withoutReturn]
  cases Csv.needsQuotes s.toList with
  | true => simp
  | false =>
    by_cases hlast : s.toList.getLast? = some '\r'
    · obtain ⟨t, ht⟩ := List.getLast?_eq_some_iff.1 hlast
      simp [ht]
    · simp [hlast]

theorem not_losesReturn_digitsOf (n : Nat) : ¬ LosesReturn (digitsOf n) := by
  rintro ⟨-, hlast⟩
  rw [digitsOf, String.toList_ofList] at hlast
  have hdigit := Json.isDigit_of_mem_digits (List.mem_of_getLast? hlast)
  cases hdigit

/-- The last column of an entity's row is a count, which has no carriage return. -/
theorem readRecord_rowOfEntity (e : EntityClass) :
    Csv.readRecord (rowOfEntity e) = rowOfEntity e := by
  have hlast := lastField_eq_self_iff.2 (not_losesReturn_digitsOf e.relationships.shown.size)
  simp only [rowOfEntity, Csv.readRecord, hlast]

/-- What is read of the records of findings: the columns, then one record for each of them, in
order, which is its row but for a carriage return at the end of a detail that is not quoted. The
rows are read back just if no finding has such a detail. Of entities all rows are read back. -/
theorem records_read_back (fs : List Finding) (g : ClassModels) :
    Csv.records? (ofFindings fs .csv) = some (findingColumns :: fs.map readRowOfFinding) ∧
    (Csv.records? (ofFindings fs .csv) = some (findingColumns :: fs.map rowOfFinding) ↔
      ∀ f ∈ fs, ¬ LosesReturn f.detail) ∧
    Csv.records? (ofModels g .csv) = some (entityColumns :: g.entities.values.map rowOfEntity) := by
  have hfindings : Csv.records? (ofFindings fs .csv) =
      some (findingColumns :: fs.map readRowOfFinding) := by
    have hread := @Csv.records?_text (findingColumns :: fs.map rowOfFinding) (by
      simp [findingColumns, rowOfFinding])
    have hcolumns : Csv.readRecord findingColumns = findingColumns := by decide
    have hrows : Csv.readRecord ∘ rowOfFinding = readRowOfFinding := rfl
    rw [List.map_cons, List.map_map, hcolumns, hrows] at hread
    exact hread
  refine ⟨hfindings, ?_, ?_⟩
  · rw [hfindings, Option.some_inj, List.cons_inj_right, List.map_inj_left]
    refine forall₂_congr fun f _ => ?_
    rw [← lastField_eq_self_iff]
    simp [readRowOfFinding, rowOfFinding]
  · have hread := @Csv.records?_text (entityColumns :: g.entities.values.map rowOfEntity) (by
      simp [entityColumns, rowOfEntity])
    have hcolumns : Csv.readRecord entityColumns = entityColumns := by decide
    have hrows : Csv.readRecord ∘ rowOfEntity = rowOfEntity := funext readRecord_rowOfEntity
    rw [List.map_cons, List.map_map, hcolumns, hrows] at hread
    exact hread

/-- The finding of a cycle through a type whose name ends in a carriage return loses it. -/
theorem cycle_loses_return :
    let f : Finding := ⟨.cyclicInheritance, "Part\r", "Part\r", "cycle through Part\r"⟩
    Csv.records? (ofFindings [f] .csv) =
      some [findingColumns, ["inheritance cycle", "Part\r", "Part\r", "cycle through Part"]] ∧
      Csv.records? (ofFindings [f] .csv) ≠ some (findingColumns :: [f].map rowOfFinding) := by
  decide +kernel

end TypeCatalog.Report
