import RuleSheet.Console.Style
import RuleSheet.Console.Table
import RuleSheet.Document.Yaml.Printer
import RuleSheet.Exchange.Report
import RuleSheet.Exchange.Sheet

/-!
# The console

What a run writes for its reader.  In the human format there are messages, sections and tables; in
the formats for machines only data is written.

## Main definitions

* `RuleSheet.OutputFormat` — the formats.
* `RuleSheet.Console` — the format, and whether the run is coloured, quiet or verbose.
* `RuleSheet.Console.info`, `success`, `warning`, `error`, `debug`, `heading` — messages.
* `RuleSheet.Console.data`, `table`, `report`, `entity` — data.

## Design

Every function gives the text that it writes.  A message that is not to be seen is the empty text.
-/

set_option autoImplicit false

namespace RuleSheet

open Text

/-- The formats of output. -/
inductive OutputFormat where
  /-- For people. -/
  | human
  /-- JSON on one line. -/
  | json
  /-- YAML. -/
  | yaml
  /-- JSON over several lines. -/
  | jsonPretty
  deriving DecidableEq, Repr

/-- The keywords of the formats. -/
def OutputFormat.keywords : List (Text × OutputFormat) :=
  [("human", .human), ("json", .json), ("yaml", .yaml), ("json-pretty", .jsonPretty)]

/-- A document in a format.  People read YAML. -/
def OutputFormat.render : OutputFormat → Document → Text
  | .human, d => d.toYaml
  | .json, d => d.toJson
  | .yaml, d => d.toYaml
  | .jsonPretty, d => d.toJsonPretty

/-- How a run writes. -/
structure Console where
  /-- The format. -/
  format : OutputFormat := .human
  /-- Whether texts are coloured. -/
  color : Bool := false
  /-- Whether only what is essential is written. -/
  quiet : Bool := false
  /-- How much is written beyond what is usual. -/
  verbosity : Nat := 0
  deriving DecidableEq, Repr

namespace Console

/-- Whether people read the output. -/
def isHuman (c : Console) : Bool := c.format = .human

/-- A text on a line of its own. -/
def line (t : Text) : Text := t ++ ['\n']

/-- What only people read. -/
def forPeople (c : Console) (t : Text) : Text := if c.isHuman then t else []

/-- What only people read who want more than the essential. -/
def unlessQuiet (c : Console) (t : Text) : Text := if c.quiet then [] else c.forPeople t

/-! ### Messages -/

/-- An information. -/
def info (c : Console) (message : Text) : Text :=
  c.unlessQuiet (line (if c.color then Style.blue.paint "ℹ" ++ ' ' :: message
    else "INFO: " ++ message))

/-- A success. -/
def success (c : Console) (message : Text) : Text :=
  c.unlessQuiet (line (Style.green.paintIf c.color message))

/-- A warning, which is essential. -/
def warning (c : Console) (message : Text) : Text :=
  c.forPeople (line (if c.color then Style.yellow.paint message else "WARNING: " ++ message))

/-- An error, which is essential. -/
def error (c : Console) (message : Text) : Text :=
  c.forPeople (line (if c.color then Style.red.paint message else "ERROR: " ++ message))

/-- A detail, which only a verbose run writes. -/
def debug (c : Console) (message : Text) : Text :=
  if c.verbosity = 0 then []
  else c.unlessQuiet (line (if c.color then
      Style.dimmed.paint "DEBUG:" ++ ' ' :: Style.dimmed.paint message
    else "DEBUG: " ++ message))

/-- The head of a section, below an empty line. -/
def heading (c : Console) (title : Text) : Text :=
  c.unlessQuiet (line [] ++ line (if c.color then Style.brightBlue.paint ("═══ " ++ title ++ " ═══")
    else "=== " ++ title ++ " ==="))

/-! ### Data -/

/-- The text on complete lines. -/
def complete (t : Text) : Text := if t.getLast? = some '\n' then t else line t

/-- A document in the format of the console. -/
def data (c : Console) (d : Document) : Text := complete (c.format.render d)

/-- A table. -/
def table (c : Console) (t : Table) : Text :=
  c.unlessQuiet (line (Style.bold.paintIf c.color t.headerLine) ++ line t.ruleLine ++
    t.rows.flatMap fun row => line (t.rowLine row))

/-- The counts of a report with their labels. -/
def counts (r : Report) : List (Text × Nat) :=
  [("Lines read", r.linesRead), ("Blank lines", r.blankLines), ("Skipped lines", r.skippedLines),
    ("Condition blocks", r.blocks), ("Standalone statements", r.standalone),
    ("Comparisons rewritten", r.comparisonsReplaced), ("Entities loaded", r.entitiesLoaded),
    ("TODO lines", r.todos.length)]

/-- A label and a count, in columns. -/
def countLine (label : Text) (n : Nat) : Text :=
  line (label ++ List.replicate (22 - label.length) ' ' ++ ' ' :: Text.ofNat n)

/-- The table of the lines left to do by hand. -/
def todoTable (items : List TodoItem) : Table :=
  ⟨["Line", "Reason", "Original"],
    items.map fun item => [Text.ofNat item.line, item.reason, item.kept]⟩

/-- A report: its counts, and a table of the lines left to do by hand. -/
def report (c : Console) (r : Report) : Text :=
  if !c.isHuman then c.data r.document
  else
    c.heading "Conversion Report" ++
      (counts r).flatMap (fun (label, n) => countLine label n) ++
      if r.todos = [] then [] else c.heading "TODO" ++ c.table (todoTable r.todos)

/-- The table of the fields of an entity. -/
def fieldTable (fields : List Field) : Table :=
  ⟨["Column", "Comment", "Getter", "Setter", "Type", "Kind"],
    fields.map fun f => [f.column, f.label, f.getter, f.setter, f.declared.getD [], f.type.name]⟩

/-- An entity: a section with a table of its fields. -/
def entity (c : Console) (e : Entity) : Text :=
  if !c.isHuman then c.data e.document
  else c.heading (e.className.getD "(unknown class)".toList) ++ c.table (fieldTable e.fields)

end Console

end RuleSheet
