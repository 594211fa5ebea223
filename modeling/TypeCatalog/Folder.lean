import TypeCatalog.KeyMap

/-!
The folder that a run starts in, and what reading a path there gives. The folder holds files and
nothing else. Of what lies outside only this is known: some steps up there is a topmost folder,
which holds the standard folders, and these hold a few files that every system has.
-/

namespace TypeCatalog

/-- Files by name, with their texts, and how many steps up the topmost folder is. -/
structure Folder where
  files : KeyMap String String := ∅
  depth : Nat := 2
  deriving DecidableEq, Repr

/-- Why a file cannot be read. -/
inductive ReadFault
  | missing
  /-- The path goes on behind a file. -/
  | notFolder
  /-- The path ends at a folder. -/
  | isFolder
  | nameTooLong
  | other (reason : String)
  deriving DecidableEq, Repr

/-- The words for a fault. -/
def ReadFault.message : ReadFault → String
  | .missing => "No such file or directory (os error 2)"
  | .notFolder => "Not a directory (os error 20)"
  | .isFolder => "Is a directory (os error 21)"
  | .nameTooLong => "File name too long (os error 36)"
  | .other reason => reason

/-- What reading a file gives. -/
abbrev FileText := Except ReadFault String

namespace Folder

/-- Where a path has led so far. -/
inductive Place
  | here
  /-- A folder above this one, some steps below the topmost one. -/
  | above (depth : Nat)
  /-- The topmost folder. -/
  | top
  /-- A standard folder. -/
  | standard (name : String)
  | file (text : String)
  deriving DecidableEq, Repr

/-- The greatest number of bytes in a name. -/
def maxNameSize : Nat := 255

/-- The greatest number of bytes in a path. -/
def maxPathSize : Nat := 4095

/-- The names of the standard folders. -/
def standardNames : List String :=
  ["bin", "boot", "dev", "etc", "home", "lib", "media", "mnt", "opt", "proc", "root", "run", "sbin",
    "srv", "sys", "tmp", "usr", "var"]

/-- The files in standard folders that every system has. None of them holds a document; the empty
text stands for what they hold. -/
def standardFiles : List (String × String) :=
  [("dev", "null"), ("dev", "stdin"), ("etc", "group"), ("etc", "hosts"), ("etc", "passwd")]

/-- The names in a path; an empty one stands where two slashes meet. -/
def names : List Char → List (List Char)
  | [] => [[]]
  | c :: rest =>
    match names rest with
    | [] => [[]]
    | name :: others => if c = '/' then [] :: name :: others else (c :: name) :: others

/-- Where the name of an entry leads from a folder. -/
def enter (f : Folder) (start : Place) (name : String) : Except ReadFault Place :=
  match start with
  | .here => ((f.files.find? name).map Place.file).elim (.error .missing) .ok
  | .above _ => .error .missing
  | .top => if name ∈ standardNames then .ok (.standard name) else .error .missing
  | .standard folder =>
    if (folder, name) ∈ standardFiles then .ok (.file "") else .error .missing
  | .file _ => .error .notFolder

/-- The folder above one that is some steps below the topmost one. -/
def up (depth : Nat) : Place := if depth ≤ 1 then .top else .above (depth - 1)

/-- The folder that holds a folder; the topmost one holds itself. -/
def parent (f : Folder) : Place → Place
  | .here => up f.depth
  | .above depth => up depth
  | _ => .top

/-- Where a name in a path leads. -/
def follow (f : Folder) (start : Place) (name : String) : Except ReadFault Place :=
  match start with
  | .file _ => .error .notFolder
  | folder =>
    if name = "" ∨ name = "." then .ok folder
    else if name = ".." then .ok (f.parent folder)
    else if maxNameSize < name.utf8ByteSize then .error .nameTooLong
    else f.enter folder name

/-- What reading a path gives. -/
def read (f : Folder) (path : String) : FileText := do
  if maxPathSize < path.utf8ByteSize then throw .nameTooLong
  let start := if ['/'].isPrefixOf path.toList then Place.top else .here
  match ← (names path.toList).foldlM (fun place name => f.follow place (String.ofList name)) start with
  | .file text => return text
  | _ => throw .isFolder

end Folder

end TypeCatalog
