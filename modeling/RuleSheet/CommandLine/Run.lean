import RuleSheet.CommandLine.Configure
import RuleSheet.CommandLine.Convert
import RuleSheet.CommandLine.Inspect

/-!
# Runs of the command line

A run takes arguments, an environment and files, and gives an exit code, what is written, and the
files after it.

## Main definitions

* `RuleSheet.CommandLine.Environment` — what a run finds besides arguments and files.
* `RuleSheet.CommandLine.Outcome` — what a run leaves behind.
* `RuleSheet.CommandLine.run` — the run.
* `RuleSheet.CommandLine.Invocation.settingsFiles`, `commandFiles` — the files that a run looks at.
-/

set_option autoImplicit false

namespace RuleSheet.CommandLine

open Text

/-- What a run finds besides arguments and files. -/
structure Environment where
  /-- The environment variables. -/
  values : Dictionary Text := .empty
  /-- What is piped in; nothing if a terminal is there instead. -/
  stdin : Option Content := none
  /-- Whether the output is seen on a terminal. -/
  terminal : Bool := false

/-- The settings file that the environment names. -/
def Environment.config (e : Environment) : Option Text := e.values.find? "RULEGEN_CONFIG"

/-- What a run leaves behind. -/
structure Outcome where
  /-- The exit code. -/
  exitCode : Nat
  /-- What was written to the standard output. -/
  stdout : Text
  /-- What was written to the standard error. -/
  stderr : Text
  /-- The files after the run. -/
  tree : FileTree

/-- The name and the version of the program. -/
def versionText (name : Text) : Text := name ++ " 0.1.0\n"

/-- A hint on how to use the program. -/
def usageText : Text := "usage: rulegen [OPTIONS] <convert|inspect|config> [ARGUMENTS]\n"

/-- The outcome of arguments that are not an invocation. -/
def Stop.outcome (tree : FileTree) : Stop → Outcome
  | .usage => ⟨2, [], usageText, tree⟩
  | .help => ⟨0, usageText, [], tree⟩
  | .version name => ⟨0, versionText name, [], tree⟩

/-- What a failure writes to the standard error. -/
def Failure.report (color : Bool) (f : Failure) : Text :=
  Console.line (f.text color) ++
    if f.needsHelp then "\nFor more information, try '--help'\n".toList else []

/-- A command at work: what it writes to the standard output, and the files after it or the failure
that ended it. -/
def runCommand (c : Console) (e : Environment) (tree : FileTree) (s : Settings) :
    Command → Text × Except Failure FileTree
  | .convert request => outcome (convert c tree e.stdin s request)
  | .inspect path => outcome ((inspect c tree path).map fun t => (t, tree))
  | .showSettings => (showSettings c s, .ok tree)
  | .initSettings path force => outcome (initSettings c tree path force)
  | .validateSettings =>
    let (t, verdict) := validateSettings c tree s
    (t, verdict.map fun _ => tree)
where
  /-- A command that writes nothing if it fails. -/
  outcome : Except Failure (Text × FileTree) → Text × Except Failure FileTree
    | .ok (t, tree) => (t, .ok tree)
    | .error f => ([], .error f)

/-- An invocation at work. -/
def Invocation.run (i : Invocation) (e : Environment) (tree : FileTree) : Outcome :=
  let c := i.console e.terminal
  let (stdout, result) := match Settings.load tree i.config with
    | .ok s => runCommand c e tree s i.command
    | .error f => ([], .error f)
  match result with
  | .ok after => ⟨0, stdout, [], after⟩
  | .error f => ⟨f.exitCode, stdout, f.report c.color, tree⟩

/-! ### Files -/

/-- The settings files that an invocation looks for. -/
def Invocation.settingsFiles (i : Invocation) : List Text :=
  match i.config with
  | some path => [path]
  | none => Settings.defaultFiles

/-- The files that a command looks at under given settings. -/
def commandFiles (s : Settings) : Command → List Text
  | .convert request =>
    let s := s.override request
    s.references.map (·.2) ++ s.outputFile.toList
  | .inspect path => [path]
  | .showSettings => []
  | .initSettings path _ => [path]
  | .validateSettings => s.references.map (·.2)

/-- Whether a command reads what is piped in, under given settings. -/
def readsStdin (s : Settings) : Command → Bool
  | .convert request => (s.override request).inputFile.isNone
  | _ => false

/-! ### Runs -/

/-- A run of the command line. -/
def run (e : Environment) (tree : FileTree) (args : List Text) : Outcome :=
  match Invocation.parse e.config args with
  | .ok i => i.run e tree
  | .error stop => stop.outcome tree

end RuleSheet.CommandLine
