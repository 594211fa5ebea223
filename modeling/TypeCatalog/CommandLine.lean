import TypeCatalog.Folder
import TypeCatalog.Report.Format

/-!
The command line: what the arguments ask for (`Command.ofArguments`), and the answer to it once the
files are read (`Invocation.execute`, or `Invocation.executeIn` for a folder of files). Arguments
are taken from left to right; an option has its value behind it, behind an equals sign or, for a
letter, directly attached. No option may be given twice.
-/

namespace TypeCatalog.CommandLine

/-! ### Arguments -/

/-- What a run is asked for. -/
structure Invocation where
  typedefs : String
  config : Option String := none
  format : Report.Format := .json
  /-- The greatest number of findings that is accepted. -/
  maxWarnings : Option Nat := none
  /-- The number of workers; zero leaves it to the program. -/
  workers : Nat := 1
  diagnostics : Bool := false
  fingerprint : Bool := false
  deriving DecidableEq, Repr

/-- What the arguments ask for. -/
inductive Command
  | run (i : Invocation)
  | version
  | help
  /-- The arguments make no sense. -/
  | misuse
  deriving DecidableEq, Repr

/-- The options that take a value. -/
inductive ValueOption | typedefs | config | format | maxWarnings | workers
  deriving DecidableEq, Repr

/-- The options that take none. -/
inductive Switch | diagnostics | fingerprint | help | version
  deriving DecidableEq, Repr

/-- The options given so far. -/
structure Given where
  typedefs : Option String := none
  config : Option String := none
  format : Option Report.Format := none
  maxWarnings : Option Nat := none
  workers : Option Nat := none
  diagnostics : Bool := false
  fingerprint : Bool := false
  deriving DecidableEq, Repr

/-- An option under its long name. -/
def optionOfName? (name : String) : Option (ValueOption ⊕ Switch) :=
  match name with
  | "typedefs" => some (.inl .typedefs)
  | "config" => some (.inl .config)
  | "format" => some (.inl .format)
  | "max-warnings" => some (.inl .maxWarnings)
  | "workers" => some (.inl .workers)
  | "diagnostics" => some (.inr .diagnostics)
  | "fingerprint" => some (.inr .fingerprint)
  | "help" => some (.inr .help)
  | "version" => some (.inr .version)
  | _ => none

/-- An option under its letter. -/
def optionOfLetter? (letter : Char) : Option (ValueOption ⊕ Switch) :=
  match letter with
  | 't' => some (.inl .typedefs)
  | 'c' => some (.inl .config)
  | 'w' => some (.inl .workers)
  | 'h' => some (.inr .help)
  | 'V' => some (.inr .version)
  | _ => none

/-- A count of at most 64 bits; a plus sign may stand before the digits. -/
def count? (text : String) : Option Nat :=
  let digits := match text.toList with
    | '+' :: rest => rest
    | cs => cs
  if digits.isEmpty || !digits.all Numeral.isDigit then none
  else
    let n := Numeral.ofDigits digits
    if n < UInt64.size then some n else none

/-- Writes a value where none stands yet. -/
def setOnce {α : Type} (old : Option α) (new : Option α) : Option (Option α) :=
  if old.isSome then none else new.map some

namespace Given

/-- The options with one more value; none if the option was given before or the value is no value
for it. -/
def addValue? (g : Given) (o : ValueOption) (value : String) : Option Given :=
  let path := if value.isEmpty then none else some value
  match o with
  | .typedefs => (setOnce g.typedefs path).map fun v => { g with typedefs := v }
  | .config => (setOnce g.config path).map fun v => { g with config := v }
  | .format =>
    (setOnce g.format (Report.Format.ofLabel? value)).map fun v => { g with format := v }
  | .maxWarnings => (setOnce g.maxWarnings (count? value)).map fun v => { g with maxWarnings := v }
  | .workers => (setOnce g.workers (count? value)).map fun v => { g with workers := v }

/-- What the options ask for when there are no more arguments. -/
def command (g : Given) : Command :=
  match g.typedefs with
  | none => .misuse
  | some typedefs => .run {
      typedefs
      config := g.config
      format := g.format.getD .json
      maxWarnings := g.maxWarnings
      workers := g.workers.getD 1
      diagnostics := g.diagnostics
      fingerprint := g.fingerprint }

end Given

/-- The outcome of an argument: the options so far, which may wait for a value, or an answer. -/
inductive Progress
  | options (g : Given)
  | waiting (g : Given) (o : ValueOption)
  | done (c : Command)
  deriving DecidableEq, Repr

/-- The options after a value, if it is one. -/
def Progress.ofValue (g : Given) (o : ValueOption) (value : String) : Progress :=
  match g.addValue? o value with
  | some g => .options g
  | none => .done .misuse

/-- The options after a switch. -/
def Progress.ofSwitch (g : Given) : Switch → Progress
  | .help => .done .help
  | .version => .done .version
  | .diagnostics => if g.diagnostics then .done .misuse else .options { g with diagnostics := true }
  | .fingerprint => if g.fingerprint then .done .misuse else .options { g with fingerprint := true }

/-- The options after a long name and perhaps a value behind an equals sign. -/
def Progress.ofLong (g : Given) (name : String) (value : Option String) : Progress :=
  match optionOfName? name, value with
  | some (.inl o), some value => .ofValue g o value
  | some (.inl o), none => .waiting g o
  | some (.inr s), none => .ofSwitch g s
  | _, _ => .done .misuse

/-- The options after a series of letters; what follows the letter of an option that takes a value
is that value. -/
def Progress.ofLetters (g : Given) : List Char → Progress
  | [] => .options g
  | letter :: rest =>
    match optionOfLetter? letter with
    | some (.inl o) =>
      match rest with
      | [] => .waiting g o
      | '=' :: value => .ofValue g o (String.ofList value)
      | value => .ofValue g o (String.ofList value)
    | some (.inr s) =>
      match ofSwitch g s with
      | .options g => ofLetters g rest
      | progress => progress
    | none => .done .misuse

/-- Whether an argument is an option rather than a value. A single dash is a value. -/
def isOption (argument : String) : Bool :=
  match argument.toList with
  | '-' :: _ :: _ => true
  | _ => false

/-- The options after an argument that is an option. -/
def Progress.ofOption (g : Given) (argument : String) : Progress :=
  match argument.toList with
  | '-' :: '-' :: name =>
    let value := match name.dropWhile (· ≠ '=') with
      | '=' :: value => some (String.ofList value)
      | _ => none
    ofLong g (String.ofList (name.takeWhile (· ≠ '='))) value
  | '-' :: letters => ofLetters g letters
  | _ => .done .misuse

/-- What arguments ask for after the options so far. -/
def commandAfter : Progress → List String → Command
  | .done c, _ => c
  | .waiting _ _, [] => .misuse
  | .waiting g o, value :: rest =>
    if isOption value then .misuse else commandAfter (.ofValue g o value) rest
  | .options g, [] => g.command
  | .options g, argument :: rest =>
    if argument = "--" then (if rest.isEmpty then g.command else .misuse)
    else if isOption argument then commandAfter (.ofOption g argument) rest
    else .misuse

/-- What the arguments ask for. -/
def Command.ofArguments (arguments : List String) : Command := commandAfter (.options {}) arguments

/-! ### Answers -/

/-- Why a run ends without output. -/
inductive Failure
  | unreadable (path : String) (fault : ReadFault)
  | malformed
  | blank (setting : RequiredSetting)
  | tooManyWarnings (count limit : Nat)
  deriving DecidableEq, Repr

/-- The words for a failure. -/
def Failure.message : Failure → String
  | .unreadable path fault => "failed to read " ++ path ++ ": " ++ fault.message
  | .malformed => "json error"
  | .blank setting => setting.message
  | .tooManyWarnings count limit =>
    Report.digitsOf count ++ " diagnostics exceed the limit of " ++ Report.digitsOf limit

namespace Invocation

/-- The settings in the text of the configuration file, if one is named. -/
def readConfig (i : Invocation) (text : FileText) : Except Failure Config :=
  match i.config with
  | none => .ok {}
  | some path =>
    match text with
    | .error fault => .error (.unreadable path fault)
    | .ok text =>
      match Config.ofText? text with
      | .ok c => .ok c
      | .error .malformed => .error .malformed
      | .error (.blank s) => .error (.blank s)

/-- The definitions in the text of the snapshot file. -/
def readSnapshot (i : Invocation) (text : FileText) : Except Failure Snapshot :=
  match text with
  | .error fault => .error (.unreadable i.typedefs fault)
  | .ok text =>
    match Snapshot.ofText? text with
    | some s => .ok s
    | none => .error .malformed

/-- What is printed of the classes. -/
def output (i : Invocation) (g : ClassModels) : String :=
  if i.fingerprint then Report.fingerprint g
  else if i.diagnostics then
    Report.ofModels g i.format ++ "\n" ++ Report.ofFindings g.findings i.format
  else Report.ofModels g i.format

/-- Why the classes are not accepted. -/
def excess? (i : Invocation) (g : ClassModels) : Option Failure :=
  i.maxWarnings.bind fun limit =>
    if limit < g.findingCount then some (.tooManyWarnings g.findingCount limit) else none

/-- The output of a run on the texts of its files; the configuration is read first. -/
def execute (i : Invocation) (configText typedefsText : FileText) : Except Failure String := do
  let config ← i.readConfig configText
  let snapshot ← i.readSnapshot typedefsText
  let models := ClassModels.ofSnapshot config (.ofWorkers i.workers) snapshot
  match i.excess? models with
  | some failure => .error failure
  | none => .ok (i.output models)

/-- The output of a run that starts in a folder. -/
def executeIn (i : Invocation) (f : Folder) : Except Failure String :=
  i.execute (f.read (i.config.getD "")) (f.read i.typedefs)

end Invocation

/-- The line that tells the version. -/
def versionText : String := "modelgen 0.1.0"

end TypeCatalog.CommandLine
