import TypeCatalog.Text.Alphanumeric
import TypeCatalog.Text.LetterCase

/-!
Splitting a name into words and writing the words in a casing. Words lie inside the runs of
alphanumeric characters. Inside a run a word ends where a small letter is followed by a capital,
and before the last capital of a series that a small letter follows; digits and letters without
case belong to the letters before them. Main statement: `flatten_wordsOfRun` (splitting a run
loses no character).
-/

namespace TypeCatalog.Text

/-! ### Words -/

/-- The longest alphanumeric stretches of a text; between two neighbouring separators lies an
empty one. -/
def runs : List Char → List (List Char)
  | [] => [[]]
  | c :: rest =>
    match runs rest with
    | [] => [[]]
    | run :: others => if isAlphanumeric c then (c :: run) :: others else [] :: run :: others

/-- The case of the last cased letter of a word so far, if there is one. -/
inductive WordCase | uncased | small | capital
  deriving DecidableEq, Repr

/-- The case of a word after `c` has joined it. -/
def WordCase.after (case : WordCase) (c : Char) : WordCase :=
  if isLowercase c then .small else if isUppercase c then .capital else case

/-- The words of an alphanumeric run: `word` holds the characters of the current word, and `case`
their case. -/
def splitRun (case : WordCase) (word : List Char) : List Char → List (List Char)
  | [] => if word.isEmpty then [] else [word]
  | [c] => [word ++ [c]]
  | c :: next :: rest =>
    if case.after c = .small ∧ isUppercase next then
      (word ++ [c]) :: splitRun .uncased [] (next :: rest)
    else if case = .capital ∧ isUppercase c ∧ isLowercase next then
      word :: splitRun .uncased [c] (next :: rest)
    else
      splitRun (case.after c) (word ++ [c]) (next :: rest)

/-- The words of a run. -/
def wordsOfRun (run : List Char) : List (List Char) := splitRun .uncased [] run

/-- The words of a text, in order. -/
def words (cs : List Char) : List (List Char) := (runs cs).flatMap wordsOfRun

theorem flatten_splitRun (case : WordCase) (word run : List Char) :
    (splitRun case word run).flatten = word ++ run := by
  fun_induction splitRun case word run with
  | case1 => simp_all
  | case2 => simp_all
  | case3 => simp
  | case4 case word c next rest h ih => simp_all
  | case5 case word c next rest h h' ih => simp_all
  | case6 case word c next rest h h' ih => simp_all

/-- Splitting a run into words loses no character and moves none. -/
theorem flatten_wordsOfRun (run : List Char) : (wordsOfRun run).flatten = run := by
  simp [wordsOfRun, flatten_splitRun]

/-! ### Writing words -/

/-- A word in small letters; a capital sigma that ends the word becomes a final sigma. -/
def lowercase : List Char → List Char
  | [] => []
  | ['Σ'] => ['ς']
  | c :: rest => toLower c ++ lowercase rest

/-- A word in capitals. -/
def uppercase (word : List Char) : List Char := word.flatMap toUpper

/-- A word with its first character in capitals and all others small. -/
def capitalize : List Char → List Char
  | [] => []
  | c :: rest => toUpper c ++ lowercase rest

/-- All words capitalized and joined: `data_set` becomes `DataSet`. -/
def upperCamel (cs : List Char) : List Char := (words cs).flatMap capitalize

/-- The first word small, the others capitalized: `data_set` becomes `dataSet`. -/
def lowerCamel (cs : List Char) : List Char :=
  match words cs with
  | [] => []
  | first :: others => lowercase first ++ others.flatMap capitalize

/-- All words in capitals with underscores between them: `dataSet` becomes `DATA_SET`. -/
def shoutySnake (cs : List Char) : List Char :=
  List.intercalate ['_'] ((words cs).map uppercase)

end TypeCatalog.Text
