import RuleSheet.Console.Style
import RuleSheet.Files.Source
import RuleSheet.Obstacle

/-!
# Failures of the command line

Why a run of the command line ends early, in words and as an exit code.

## Main definitions

* `RuleSheet.CommandLine.Failure` — the causes.
* `RuleSheet.CommandLine.Failure.message`, `text` — the wording, and what the user sees.
* `RuleSheet.CommandLine.Failure.exitCode` — one code for each kind of cause.
-/

set_option autoImplicit false

namespace RuleSheet.CommandLine

open Text

/-- Why the conversion itself fails. -/
inductive Breakdown where
  /-- A source could not be read. -/
  | source (failure : SourceFailure)
  /-- The conversion is set up wrongly. -/
  | setup (message : Text) (cause : Option Text)
  /-- A line could not be converted. -/
  | obstacle (o : Obstacle)
  deriving DecidableEq, Repr

namespace Breakdown

/-- The wording of a breakdown. -/
def message : Breakdown → Text
  | .source failure => failure.message
  | .setup message _ => "Configuration error: " ++ message
  | .obstacle o => o.message

/-- The wording of what is behind a breakdown. -/
def cause? : Breakdown → Option Text
  | .source failure => some failure.cause.message
  | .setup _ cause => cause
  | .obstacle _ => none

end Breakdown

/-- Why a run ends early. -/
inductive Failure where
  /-- A file operation failed. -/
  | file (cause : FileFailure)
  /-- The conversion failed. -/
  | conversion (b : Breakdown)
  /-- A file that was asked for is not there. -/
  | fileNotFound (path : Text)
  /-- The settings are wrong. -/
  | settings (message : Text)
  /-- The arguments do not go together. -/
  | arguments (message : Text)
  /-- A file is not the JSON that it should be. -/
  | json
  /-- A file is not the YAML that it should be. -/
  | yaml
  /-- Another cause. -/
  | other (message : Text)
  deriving DecidableEq, Repr

namespace Failure

/-- The wording of a failure. -/
def message : Failure → Text
  | .file cause => "IO error: " ++ cause.message
  | .conversion b => b.message
  | .fileNotFound path => "File not found: " ++ path
  | .settings message => "Configuration error: " ++ message
  | .arguments message => "Invalid arguments: " ++ message
  | .json => "JSON error"
  | .yaml => "YAML error"
  | .other message => message

/-- The exit code for a failure. -/
def exitCode : Failure → Nat
  | .file _ => 1
  | .conversion _ => 2
  | .fileNotFound _ => 3
  | .settings _ => 5
  | .arguments _ => 6
  | .json => 12
  | .yaml => 13
  | .other _ => 99

/-- Whether the failure calls for a hint on how to use the program. -/
def needsHelp : Failure → Bool
  | .arguments _ => true
  | _ => false

/-- The wording with what is behind it, unless the wording says that already. -/
def detailed (f : Failure) : Text :=
  match f with
  | .conversion b =>
    match b.cause? with
    | some cause =>
      if Text.contains b.message cause then b.message
      else b.message ++ "\n  caused by: " ++ cause
    | none => b.message
  | f => f.message

/-- What the user sees. -/
def text (color : Bool) (f : Failure) : Text :=
  Style.boldRed.paintIf color "Error:" ++ ' ' :: f.detailed

end Failure

end RuleSheet.CommandLine
