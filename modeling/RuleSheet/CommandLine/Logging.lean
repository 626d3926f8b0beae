import RuleSheet.Text.Case

/-!
# Logging

What a run logs, and how.  The verbosity asked for gives a first answer; the settings file and then
the environment may change it.

## Main definitions

* `RuleSheet.CommandLine.Logging` — level, format and details of log lines.
* `RuleSheet.CommandLine.Logging.ofVerbosity`, `withSettings`, `withEnvironment` — the three steps.
-/

set_option autoImplicit false

namespace RuleSheet.CommandLine

open Text

/-- The formats of log lines. -/
inductive LogFormat where
  /-- Short. -/
  | compact
  /-- With all details. -/
  | full
  /-- As records. -/
  | json
  deriving DecidableEq, Repr

namespace LogFormat

/-- The format that a word names, in letters of either case. -/
def ofWord? (t : Text) : Option LogFormat :=
  let word := lowercase t
  if word = "compact" then some .compact
  else if word = "full" then some .full
  else if word = "json" then some .json
  else none

/-- The name of a format. -/
def name : LogFormat → Text
  | .compact => "Compact"
  | .full => "Full"
  | .json => "Json"

end LogFormat

/-- What is logged, and how. -/
structure Logging where
  /-- The least level that is logged. -/
  level : Text := "warn"
  /-- The format. -/
  format : LogFormat := .compact
  /-- Whether a terminal is written to. -/
  console : Bool := true
  /-- Whether threads are told apart. -/
  threads : Bool := false
  /-- Whether places in the program are given. -/
  places : Bool := false
  deriving DecidableEq, Repr

namespace Logging

/-- What a verbosity asks for. -/
def ofVerbosity : Nat → Logging
  | 0 => {}
  | 1 => { level := "info" }
  | 2 => { level := "debug", places := true }
  | _ => { level := "trace", format := .full, threads := true, places := true }

/-- The logging in another format; a word that names no format changes nothing. -/
def withFormat (l : Logging) (word : Option Text) : Logging :=
  match word.bind LogFormat.ofWord? with
  | some format => { l with format }
  | none => l

/-- The logging at another level. -/
def withLevel (l : Logging) (level : Option Text) : Logging :=
  { l with level := level.getD l.level }

/-- The logging after the settings file.  A verbosity that was asked for outranks its level. -/
def withSettings (l : Logging) (verbosity : Nat) (level format : Option Text) : Logging :=
  (l.withLevel (if verbosity = 0 then level else none)).withFormat format

/-- The logging after the environment. -/
def withEnvironment (l : Logging) (level format : Option Text) : Logging :=
  (l.withLevel level).withFormat format

end Logging

end RuleSheet.CommandLine
