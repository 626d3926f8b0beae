import RuleSheet.Document.Yaml.Reader
import RuleSheet.Exchange.Options
import RuleSheet.Line
import RuleSheet.Regression.Failure

/-!
# Cases

A case of a regression test is a folder with a description, a rule sheet, the sources that it needs,
and the code that is expected.

## Main definitions

* `RuleSheet.Regression.Description` — what the description file of a case says.
* `RuleSheet.Regression.Case` — a case, with its paths.
* `RuleSheet.Regression.Case.loadBy`, `load` — the case in a folder, with its description read by a
  function, and by the reader of settings files.
* `RuleSheet.Regression.Case.sheet` — its rule sheet.

## Design

A description may be written in parts of YAML that the reader of settings files refuses.  What is
done with a case does not look at how its description was read, so the reader is a parameter.
-/

set_option autoImplicit false

namespace RuleSheet.Regression

open Text

/-- What the description of a case says. -/
structure Description where
  /-- What the case tests. -/
  description : Text
  /-- The tags by which it is selected. -/
  tags : List Text := []
  /-- Whether it is run. -/
  enabled : Bool := true
  /-- Cases of smaller priority come first. -/
  priority : Nat := 100
  /-- The rule sheet, from the folder of the case. -/
  input : Text := "input.txt"
  /-- The expected code, from the folder of the case. -/
  expected : Text := "expected.java"
  /-- The options of the conversion. -/
  options : Options := {}

namespace Description

/-- The fields of a description, in their order. -/
def fields : List String :=
  ["description", "tags", "enabled", "priority", "input", "expected", "options"]

/-- A count that fits in 32 bits. -/
def priority? (d : Document) : Option Nat := do
  let n ← d.count?
  if n < Nat.pow 2 32 then some n else none

/-- A description from its document. -/
def ofDocument? (d : Document) : Option Description := do
  let r ← d.record? fields
  return {
    description := ← r.required "description" (·.text?)
    tags := ← r.withDefault "tags" (·.listOf? (·.text?)) []
    enabled := ← r.withDefault "enabled" (·.flag?) true
    priority := ← r.withDefault "priority" priority? 100
    input := ← r.withDefault "input" (·.text?) "input.txt".toList
    expected := ← r.withDefault "expected" (·.text?) "expected.java".toList
    options := ← r.withDefault "options" Options.ofDocument? {} }

/-- A description as a document. -/
def document (d : Description) : Document := .record
  [("description", .text d.description), ("tags", .listOf .text d.tags),
    ("enabled", .flag d.enabled), ("priority", .count d.priority), ("input", .text d.input),
    ("expected", .text d.expected), ("options", d.options.document)]

end Description

/-- A case. -/
structure Case where
  /-- The name of its folder. -/
  name : Text
  /-- Its folder. -/
  folder : Text
  /-- Its description, with the paths of its options taken from its folder. -/
  description : Description

namespace Case

/-- The name of the file that describes a case. -/
def fileName : Text := "case.yaml"

/-- The path of the rule sheet. -/
def inputPath (c : Case) : Text := Path.join c.folder c.description.input

/-- The path of the expected code. -/
def expectedPath (c : Case) : Text := Path.join c.folder c.description.expected

/-- The case in a folder.  `read?` gives the document of its description. -/
def loadBy (read? : Text → Option Document) (tree : FileTree) (folder : Text) :
    Except Failure Case := do
  let content ← (tree.read (Path.join folder fileName)).mapError .file
  match (read? content).bind Description.ofDocument? with
  | none => throw .yaml
  | some d =>
    return {
      name := (Path.fileName? folder).getD []
      folder
      description := { d with options := d.options.relativeTo folder } }

/-- The case in a folder. -/
def load (tree : FileTree) (folder : Text) : Except Failure Case :=
  loadBy Document.ofYaml? tree folder

/-- The lines of the rule sheet. -/
def sheet (tree : FileTree) (c : Case) : Except Failure (List Text) :=
  ((tree.read c.inputPath).mapError .file).map Line.ofSheet

end Case

end RuleSheet.Regression
