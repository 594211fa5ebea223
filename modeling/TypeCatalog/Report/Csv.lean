/-!
Comma-separated records. A field that holds a comma, a quotation mark or a line break stands
between quotation marks, with the marks inside it doubled; every record ends with a line break.
`records?` reads such text, and accepts a carriage return before a line break.
-/

namespace TypeCatalog.Report.Csv

/-! ### Writing -/

/-- Whether a field has to be quoted. -/
def needsQuotes (field : List Char) : Bool :=
  field.any fun c => c = ',' || c = '"' || c = '\n'

/-- A text with its quotation marks doubled. -/
def doubleQuotes : List Char → List Char
  | [] => []
  | c :: rest => if c = '"' then '"' :: '"' :: doubleQuotes rest else c :: doubleQuotes rest

/-- The written form of a field. -/
def field (f : List Char) : List Char :=
  if needsQuotes f then '"' :: doubleQuotes f ++ ['"'] else f

/-- The written form of a record. -/
def record (fields : List String) : List Char :=
  List.intercalate [','] (fields.map fun f => field f.toList) ++ ['\n']

/-- The text of records. -/
def text (records : List (List String)) : String := String.ofList (records.flatMap record)

/-! ### Reading -/

/-- How a field ends. -/
inductive FieldEnd
  /-- Another field of the record follows. -/
  | comma
  /-- The record ends. -/
  | lineBreak
  /-- The text ends. -/
  | textEnd
  deriving DecidableEq, Repr

/-- A field that is not quoted. -/
def plainField : List Char → List Char × FieldEnd × List Char
  | [] => ([], .textEnd, [])
  | ',' :: rest => ([], .comma, rest)
  | '\n' :: rest => ([], .lineBreak, rest)
  | '\r' :: '\n' :: rest => ([], .lineBreak, rest)
  | c :: rest =>
    let (f, ending, rest) := plainField rest
    (c :: f, ending, rest)

/-- What follows the closing mark of a quoted field. -/
def fieldEnd? : List Char → Option (FieldEnd × List Char)
  | [] => some (.textEnd, [])
  | ',' :: rest => some (.comma, rest)
  | '\n' :: rest => some (.lineBreak, rest)
  | '\r' :: '\n' :: rest => some (.lineBreak, rest)
  | _ => none

/-- A quoted field whose opening mark has been read. -/
def quotedField? : List Char → Option (List Char × FieldEnd × List Char)
  | [] => none
  | '"' :: '"' :: rest => (quotedField? rest).map fun (f, more) => ('"' :: f, more)
  | '"' :: rest => (fieldEnd? rest).map fun more => ([], more)
  | c :: rest => (quotedField? rest).map fun (f, more) => (c :: f, more)

/-- A field. -/
def field? : List Char → Option (List Char × FieldEnd × List Char)
  | '"' :: rest => quotedField? rest
  | cs => some (plainField cs)

/-- The records of a text that starts inside a record, whose earlier fields are given. -/
def recordsFrom? : Nat → List String → List Char → Option (List (List String))
  | 0, _, _ => none
  | fuel + 1, fields, cs =>
    match field? cs with
    | none => none
    | some (f, ending, rest) =>
      let fields := fields ++ [String.ofList f]
      match ending with
      | .comma => recordsFrom? fuel fields rest
      | .textEnd => some [fields]
      | .lineBreak =>
        if rest.isEmpty then some [fields]
        else (recordsFrom? fuel [] rest).map (fields :: ·)

/-- The records of a text; an empty text has none. -/
def records? (text : String) : Option (List (List String)) :=
  if text.isEmpty then some [] else recordsFrom? (text.toList.length + 1) [] text.toList

end TypeCatalog.Report.Csv
