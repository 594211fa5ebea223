import TypeCatalog.CommandLine

/-!
The program `modelgen`: reads the files that the arguments name and prints the answer. Output goes
to the standard output, failures and words on usage to the standard error.
-/

namespace TypeCatalog.Main

open CommandLine

/-- Why a file could not be read. -/
def faultOf : IO.Error → ReadFault
  | .noFileOrDirectory .. => .missing
  | .inappropriateType _ 20 _ => .notFolder
  | .inappropriateType _ 21 _ => .isFolder
  | .invalidArgument _ 36 _ => .nameTooLong
  | fault => .other (toString fault)

/-- The text of a file. -/
def readFile (path : String) : IO FileText := do
  try
    return .ok (← IO.FS.readFile ⟨path⟩)
  catch fault => return .error (faultOf fault)

/-- A reminder of the arguments. -/
def usage : String :=
  "Usage: modelgen [OPTIONS] --typedefs <TYPEDEFS>\n\n" ++
  "Options:\n" ++
  "  -t, --typedefs <TYPEDEFS>          Type definition snapshot (JSON)\n" ++
  "  -c, --config <CONFIG>              Generator configuration (JSON)\n" ++
  "      --format <FORMAT>              Output format: table, json or csv\n" ++
  "      --max-warnings <MAX_WARNINGS>  Fail when more diagnostics than this are recorded\n" ++
  "  -w, --workers <WORKERS>            Worker threads for entity resolution\n" ++
  "      --diagnostics                  Print diagnostics after the models\n" ++
  "      --fingerprint                  Print only the fingerprint of the resolved models\n" ++
  "  -h, --help                         Print help\n" ++
  "  -V, --version                      Print version"

end TypeCatalog.Main

open TypeCatalog TypeCatalog.CommandLine in
/-- Answers the arguments. The exit code is 1 for a failure and 2 for arguments without sense. -/
def main (arguments : List String) : IO UInt32 := do
  match Command.ofArguments arguments with
  | .version => IO.println versionText; return 0
  | .help => IO.println Main.usage; return 0
  | .misuse => IO.eprintln Main.usage; return 2
  | .run i =>
    let configText ← Main.readFile (i.config.getD "")
    let typedefsText ← Main.readFile i.typedefs
    match i.execute configText typedefsText with
    | .ok output => IO.println output; return 0
    | .error failure => IO.eprintln ("Error: " ++ failure.message); return 1
