import RuleSheet.Console.Basic
import RuleSheet.Options

/-!
# Arguments

The arguments of the command line, read as an invocation.  Options may be written `--name value`,
`--name=value`, `-n value`, `-nvalue` or `-n=value`; letters without values may stand together.
Options that every command knows may stand before or after its name.

## Main definitions

* `RuleSheet.CommandLine.keyValue` — a `KEY=VALUE` argument.
* `RuleSheet.CommandLine.OptionSpec`, `Level` — what is known at one level of commands.
* `RuleSheet.CommandLine.Level.scan` — the arguments of one level.
* `RuleSheet.CommandLine.Invocation` — what a run is asked to do, with `Invocation.parse`.

## Design

Arguments are scanned from left to right, one level of commands after the other.  The first thing
that is wrong, or that asks for help or for the version, decides.  What options mean together is
checked afterwards, for each level by itself.
-/

set_option autoImplicit false

namespace RuleSheet.CommandLine

open Text

/-! ### Keys with values -/

/-- A text that is not a key with a value. -/
structure KeyValueFailure where
  /-- The text. -/
  given : Text
  deriving DecidableEq, Repr

/-- The wording of the failure. -/
def KeyValueFailure.message (f : KeyValueFailure) : Text :=
  "expected KEY=VALUE, got '" ++ f.given ++ "'"

/-- The key before the first equals sign and the value after it, without blanks around them.
Neither may be empty. -/
def keyValue (t : Text) : Except KeyValueFailure (Text × Text) :=
  match cut? ['='] t with
  | none => .error ⟨t⟩
  | some (key, value) =>
    let key := trim key
    let value := trim value
    if key = [] ∨ value = [] then .error ⟨t⟩ else .ok (key, value)

/-! ### Scanning -/

/-- An option that a level knows. -/
structure OptionSpec where
  /-- The name, which two dashes introduce. -/
  name : Text
  /-- The letter, which one dash introduces. -/
  short : Option Char := none
  /-- Which values are accepted, if the option takes one. -/
  accepts : Option (Text → Bool) := none
  /-- Whether the option may be repeated. -/
  repeatable : Bool := false

/-- What is known at one level of commands. -/
structure Level where
  /-- The words in front, which name the level. -/
  path : List Text
  /-- The options. -/
  options : List OptionSpec
  /-- The commands below. -/
  commands : List Text := []
  /-- The largest number of arguments that are not options. -/
  wordLimit : Nat := 0

/-- Why the arguments are not an invocation. -/
inductive Stop where
  /-- They are wrong. -/
  | usage
  /-- They ask for help. -/
  | help
  /-- They ask for the version of a program with a name. -/
  | version (name : Text)
  deriving DecidableEq, Repr

/-- What was given at one level. -/
structure Given where
  /-- The names of options with their values; an option without value has the empty text. -/
  options : List (Text × Text) := []
  /-- The arguments that are not options. -/
  words : List Text := []
  deriving DecidableEq, Repr

namespace Given

/-- Whether an option was given. -/
def has (g : Given) (name : Text) : Bool := g.options.any fun (other, _) => other = name

/-- How often an option was given. -/
def count (g : Given) (name : Text) : Nat := g.options.countP fun (other, _) => other = name

/-- The values of an option, in order. -/
def values (g : Given) (name : Text) : List Text :=
  (g.options.filter fun (other, _) => other = name).map (·.2)

/-- The value of an option. -/
def value? (g : Given) (name : Text) : Option Text := (g.values name).head?

end Given

/-- What asks for help or for the version. -/
def Level.special? (level : Level) (name : Text) : Option Stop :=
  if name = "help" then some .help
  else if name = "version" then some (.version (join ['-'] level.path))
  else none

/-- What is given, with one more option. -/
def Given.option (g : Given) (level : Level) (spec : OptionSpec) (value : Text) :
    Except Stop Given :=
  match level.special? spec.name with
  | some stop => .error stop
  | none =>
    let accepted := match spec.accepts with
      | some accepts => accepts value
      | none => true
    if !accepted || (g.has spec.name && !spec.repeatable) then .error .usage
    else .ok { g with options := g.options ++ [(spec.name, value)] }

/-- What is given, with one more argument that is not an option; it may not be empty. -/
def Given.word (g : Given) (level : Level) (t : Text) : Except Stop Given :=
  if t = [] ∨ level.wordLimit ≤ g.words.length then .error .usage
  else .ok { g with words := g.words ++ [t] }

namespace Level

/-- The option with a name. -/
def named? (level : Level) (name : Text) : Option OptionSpec :=
  level.options.find? fun spec => spec.name = name

/-- The option with a letter. -/
def lettered? (level : Level) (letter : Char) : Option OptionSpec :=
  level.options.find? fun spec => spec.short = some letter

/-- Letters after one dash.  The result holds the option that waits for a value, if there is one. -/
def letters (level : Level) (g : Given) : Text → Except Stop (Given × Option OptionSpec)
  | [] => .ok (g, none)
  | letter :: rest =>
    match level.lettered? letter with
    | none => .error .usage
    | some spec =>
      if spec.accepts.isNone then do
        let g ← g.option level spec []
        level.letters g rest
      else match rest with
        | [] => .ok (g, some spec)
        | '=' :: value => do return (← g.option level spec value, none)
        | value => do return (← g.option level spec value, none)

/-- A name after two dashes, perhaps with a value. -/
def longOption (level : Level) (g : Given) (t : Text) : Except Stop (Given × Option OptionSpec) :=
  let (name, value) := match cut? ['='] t with
    | some (name, value) => (name, some value)
    | none => (t, none)
  match level.named? name with
  | none => .error .usage
  | some spec =>
    match spec.accepts, value with
    | some _, some value => do return (← g.option level spec value, none)
    | some _, none => .ok (g, some spec)
    | none, some _ => .error .usage
    | none, none => do return (← g.option level spec [], none)

/-- Whether an argument looks like an option. -/
def isOption : Text → Bool
  | '-' :: _ :: _ => true
  | _ => false

/-- The arguments of one level.  The result holds the command below with its arguments, if there is
one.  `waiting` is the option whose value comes next. -/
def scan (level : Level) (g : Given) (waiting : Option OptionSpec) :
    List Text → Except Stop (Given × Option (Text × List Text))
  | [] => if waiting.isSome then .error .usage else .ok (g, none)
  | arg :: rest =>
    match waiting with
    | some spec =>
      if isOption arg then .error .usage
      else do
        let g ← g.option level spec arg
        level.scan g none rest
    | none =>
      match after? "--" arg with
      | some [] => do return (← rest.foldlM (fun g t => g.word level t) g, none)
      | some name => do
        let (g, waiting) ← level.longOption g name
        level.scan g waiting rest
      | none =>
        if isOption arg then do
          let (g, waiting) ← level.letters g (arg.drop 1)
          level.scan g waiting rest
        else if level.commands = [] then do
          let g ← g.word level arg
          level.scan g none rest
        else if arg = "help" then .error .help
        else if level.commands.any (· = arg) then .ok (g, some (arg, rest))
        else .error .usage

end Level

/-! ### The levels -/

/-- Values that are not empty. -/
def isGiven (t : Text) : Bool := t ≠ []

/-- Values among given words. -/
def isOneOf (words : List Text) (t : Text) : Bool := words.any (· = t)

/-- The options that every command knows. -/
def commonOptions : List OptionSpec :=
  [{ name := "verbose", short := some 'v', repeatable := true },
    { name := "quiet", short := some 'q' },
    { name := "config", short := some 'c', accepts := some isGiven },
    { name := "output", short := some 'o',
      accepts := some (isOneOf (OutputFormat.keywords.map (·.1))) },
    { name := "no-color" },
    { name := "help", short := some 'h' },
    { name := "version", short := some 'V' }]

/-- A keyword as the command line writes it: with hyphens. -/
def hyphenated (t : Text) : Text := t.map fun c => if c = '_' then '-' else c

/-- The keywords of a choice as the command line writes them. -/
def choices {α : Type} (keywords : Keywords α) : List (Text × α) :=
  keywords.map fun (word, a) => (hyphenated word, a)

/-- The choice that a keyword stands for. -/
def choice? {α : Type} (keywords : Keywords α) (t : Text) : Option α :=
  ((choices keywords).find? fun (word, _) => word = t).map (·.2)

/-- An option whose value is a keyword. -/
def choiceOption {α : Type} (name : Text) (keywords : Keywords α) (short : Option Char) :
    OptionSpec :=
  { name, short, accepts := some (isOneOf ((choices keywords).map (·.1))) }

/-- An option whose values are keys with values. -/
def keyValueOption (name : Text) : OptionSpec :=
  { name, accepts := some fun t => (keyValue t).toBool, repeatable := true }

/-- The options of the command that converts. -/
def convertOptions : List OptionSpec :=
  [{ name := "out", accepts := some isGiven },
    choiceOption "mode" Mode.keywords (some 'm'),
    keyValueOption "entity",
    keyValueOption "instance",
    { name := "definitions", accepts := some isGiven },
    { name := "postprocess" },
    { name := "no-postprocess" },
    choiceOption "todo-policy" Policy.keywords none,
    choiceOption "block-scope" BlockScope.keywords none,
    { name := "field-comments" },
    { name := "report" }]

/-- The program itself. -/
def rootLevel : Level :=
  ⟨["rulegen"], commonOptions, ["convert", "inspect", "config"], 0⟩

/-- The command that converts a rule sheet. -/
def convertLevel : Level :=
  ⟨["rulegen", "convert"], convertOptions ++ commonOptions, [], 1⟩

/-- The command that shows an entity. -/
def inspectLevel : Level := ⟨["rulegen", "inspect"], commonOptions, [], 1⟩

/-- The command on settings. -/
def configLevel : Level :=
  ⟨["rulegen", "config"], commonOptions, ["show", "init", "validate"], 0⟩

/-- The command that shows the settings. -/
def showLevel : Level := ⟨["rulegen", "config", "show"], commonOptions, [], 0⟩

/-- The command that writes a settings file. -/
def initLevel : Level :=
  ⟨["rulegen", "config", "init"],
    [{ name := "path", accepts := some isGiven }, { name := "force" }] ++ commonOptions, [], 0⟩

/-- The command that checks the settings. -/
def validateLevel : Level := ⟨["rulegen", "config", "validate"], commonOptions, [], 0⟩

/-! ### Invocations -/

/-- What to convert, and how. -/
structure ConvertRequest where
  /-- The rule sheet. -/
  input : Option Text := none
  /-- The file that code is written to. -/
  out : Option Text := none
  /-- How lines are grouped. -/
  mode : Option Mode := none
  /-- Source files of entity identifiers. -/
  entities : List (Text × Text) := []
  /-- Instance names of entity identifiers. -/
  instances : List (Text × Text) := []
  /-- The source file of the variable definitions. -/
  definitions : Option Text := none
  /-- Whether comparisons are replaced by calls of helpers. -/
  postprocess : Option Bool := none
  /-- What happens to lines that are not recognised. -/
  policy : Option Policy := none
  /-- Which lines belong to a block. -/
  scope : Option BlockScope := none
  /-- Whether labels are written above assignments. -/
  fieldComments : Bool := false
  /-- Whether a report is written. -/
  report : Bool := false
  deriving DecidableEq, Repr

/-- The commands. -/
inductive Command where
  /-- Converts a rule sheet. -/
  | convert (request : ConvertRequest)
  /-- Shows the entity of a source file. -/
  | inspect (path : Text)
  /-- Shows the settings. -/
  | showSettings
  /-- Writes a settings file, over an existing one only if forced. -/
  | initSettings (path : Text) (force : Bool)
  /-- Checks the settings. -/
  | validateSettings
  deriving DecidableEq, Repr

/-- What a run is asked to do. -/
structure Invocation where
  /-- How much is written beyond what is usual. -/
  verbosity : Nat := 0
  /-- Whether only what is essential is written. -/
  quiet : Bool := false
  /-- The settings file. -/
  config : Option Text := none
  /-- The format of output. -/
  format : OutputFormat := .human
  /-- Whether colours are unwanted. -/
  noColor : Bool := false
  /-- The command. -/
  command : Command
  deriving DecidableEq, Repr

/-- What the options of the command that converts ask for. -/
def ConvertRequest.ofGiven (g : Given) : ConvertRequest where
  input := g.words.head?
  out := g.value? "out"
  mode := (g.value? "mode").bind (choice? Mode.keywords)
  entities := (g.values "entity").filterMap fun t => (keyValue t).toOption
  instances := (g.values "instance").filterMap fun t => (keyValue t).toOption
  definitions := g.value? "definitions"
  postprocess :=
    if g.has "postprocess" then some true
    else if g.has "no-postprocess" then some false
    else none
  policy := (g.value? "todo-policy").bind (choice? Policy.keywords)
  scope := (g.value? "block-scope").bind (choice? BlockScope.keywords)
  fieldComments := g.has "field-comments"
  report := g.has "report"

namespace Invocation

/-- Options that exclude each other are not given together. -/
def isConsistent (g : Given) : Bool :=
  !(g.has "quiet" && g.has "verbose") && !(g.has "postprocess" && g.has "no-postprocess")

/-- The invocation with the common options of the levels, the innermost first.  An inner level
outranks the levels around it. -/
def ofLevels (command : Command) (levels : List Given) (config : Option Text) : Invocation where
  verbosity := ((levels.map fun g => g.count "verbose").find? (0 < ·)).getD 0
  quiet := levels.any fun g => g.has "quiet"
  config := levels.findSome? (fun g => g.value? "config") <|> config
  format := ((levels.findSome? fun g => g.value? "output").bind fun word =>
    (OutputFormat.keywords.find? fun (other, _) => other = word).map (·.2)).getD .human
  noColor := levels.any fun g => g.has "no-color"
  command := command

/-- The arguments of a level without commands. -/
def scanLast (level : Level) (args : List Text) : Except Stop Given :=
  (level.scan {} none args).map (·.1)

/-- The arguments of a level with commands. -/
def scanOuter (level : Level) (args : List Text) : Except Stop (Given × Text × List Text) := do
  match ← level.scan {} none args with
  | (g, some (command, rest)) => return (g, command, rest)
  | (_, none) => throw .usage

/-- The command on settings with its levels, the innermost first. -/
def configCommand (args : List Text) : Except Stop (Command × List Given) := do
  let (outer, action, rest) ← scanOuter configLevel args
  if action = "show" then
    return (.showSettings, [← scanLast showLevel rest, outer])
  else if action = "init" then
    let g ← scanLast initLevel rest
    return (.initSettings ((g.value? "path").getD "rulegen.yaml".toList) (g.has "force"),
      [g, outer])
  else
    return (.validateSettings, [← scanLast validateLevel rest, outer])

/-- A command with its levels, the innermost first. -/
def commandNamed (name : Text) (args : List Text) : Except Stop (Command × List Given) := do
  if name = "convert" then
    let g ← scanLast convertLevel args
    return (.convert (.ofGiven g), [g])
  else if name = "inspect" then
    let g ← scanLast inspectLevel args
    match g.words.head? with
    | some path => return (.inspect path, [g])
    | none => throw .usage
  else configCommand args

/-- The invocation that arguments stand for.  `config` is the settings file that the environment
names; it may not be the empty text. -/
def parse (config : Option Text) (args : List Text) : Except Stop Invocation := do
  let (outer, name, rest) ← scanOuter rootLevel args
  let (command, levels) ← commandNamed name rest
  let levels := levels ++ [outer]
  if config = some [] || !levels.all isConsistent then throw .usage
  return ofLevels command levels config

/-- How the run writes, on a terminal or not. -/
def console (i : Invocation) (terminal : Bool) : Console where
  format := i.format
  color := !i.noColor && terminal
  quiet := i.quiet
  verbosity := if i.quiet then 0 else i.verbosity

end Invocation

end RuleSheet.CommandLine
