import TypeCatalog.Text.Columns

/-!
Ruled tables for a fixed-pitch display. A column is as wide as its widest line, with a blank on
either side; a cell with line breaks takes several lines. The header is set off by a double rule,
and rows are separated by single ones.
-/

namespace TypeCatalog.Report.Table

/-- The lines of a text; between two neighbouring line breaks lies an empty one. -/
def lines : List Char → List (List Char)
  | [] => [[]]
  | c :: rest =>
    match lines rest with
    | [] => [[]]
    | line :: others => if c = '\n' then [] :: line :: others else (c :: line) :: others

/-- A cell as a list of lines. -/
abbrev Cell := List (List Char)

/-- The columns that a cell's widest line takes. -/
def cellWidth (cell : Cell) : Nat := (cell.map Text.columns).foldl max 0

/-- The widths of the columns of rows that are equally long. -/
def widths : List (List Cell) → List Nat
  | [] => []
  | [row] => row.map cellWidth
  | row :: rest => List.zipWith max (row.map cellWidth) (widths rest)

/-- A rule across all columns, with given marks at its left end, between columns and at its right
end. -/
def rule (left fill between right : Char) (widths : List Nat) : List Char :=
  left :: List.intercalate [between] (widths.map fun w => List.replicate (w + 2) fill) ++ [right]

/-- A line filled up with blanks to a width. -/
def padded (width : Nat) (line : List Char) : List Char :=
  line ++ List.replicate (width - Text.columns line) ' '

/-- One display line of a row. -/
def rowLine (widths : List Nat) (row : List Cell) (index : Nat) : List Char :=
  let texts := List.zipWith (fun w (cell : Cell) => ' ' :: padded w (cell.getD index []) ++ [' '])
    widths row
  '|' :: List.intercalate ['|'] texts ++ ['|']

/-- All display lines of a row. -/
def rowLines (widths : List Nat) (row : List Cell) : List (List Char) :=
  let height := (row.map List.length).foldl max 0
  (List.range height).map (rowLine widths row)

/-- The display lines of rows with a rule between each two. -/
def bodyLines (widths : List Nat) : List (List Cell) → List (List Char)
  | [] => []
  | [row] => rowLines widths row
  | row :: rest => rowLines widths row ++ rule '|' '-' '+' '|' widths :: bodyLines widths rest

/-- The text of a table. -/
def render (header : List String) (rows : List (List String)) : String :=
  let cells (row : List String) : List Cell := row.map fun text => lines text.toList
  let head := cells header
  let body := rows.map cells
  let ws := widths (head :: body)
  let border := rule '+' '-' '+' '+' ws
  let all := border :: rowLines ws head ++ rule '+' '=' '=' '+' ws :: bodyLines ws body ++ [border]
  String.ofList (List.intercalate ['\n'] all)

end TypeCatalog.Report.Table
