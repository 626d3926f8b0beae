import RuleSheet.CommandLine.Arguments
import RuleSheet.CommandLine.Settings

/-!
# Converting from the command line

The command that converts a rule sheet.  What the arguments say outranks what the settings say.

## Main definitions

* `RuleSheet.CommandLine.Settings.override` — the settings with what a request changes.
* `RuleSheet.CommandLine.convert` — the run: what is written to the console, and the files after it.
-/

set_option autoImplicit false

namespace RuleSheet.CommandLine

open Text

/-- The options with what a request changes. -/
def overrideOptions (o : Options) (r : ConvertRequest) : Options :=
  { o with
    mode := r.mode.getD o.mode
    policy := r.policy.getD o.policy
    scope := r.scope.getD o.scope
    postprocess := r.postprocess.getD o.postprocess
    definitionsFile := r.definitions <|> o.definitionsFile
    fieldComments := r.fieldComments || o.fieldComments
    entityFiles := r.entities.foldl (fun d (id, path) => d.insert id path) o.entityFiles
    entityInstances := r.instances.foldl (fun d (id, name) => d.insert id name) o.entityInstances }

/-- The settings with what a request changes. -/
def Settings.override (s : Settings) (r : ConvertRequest) : Settings :=
  { s with
    inputFile := r.input <|> s.inputFile
    outputFile := r.out <|> s.outputFile
    options := overrideOptions s.options r }

/-- The rule sheet: a file, or what is piped in. -/
def readSheet (tree : FileTree) (stdin : Option Content) (path : Option Text) :
    Except Failure Text :=
  match path, stdin with
  | some path, _ =>
    if !tree.hasEntry path then .error (.fileNotFound path)
    else (tree.read path).mapError .file
  | none, some (.text content) => .ok content
  | none, some (.binary _) => .error (.file .notText)
  | none, none => .error (.arguments
      "no input given: pass INPUT, set converter.input_file or pipe rule lines on stdin")

/-- Code as it stands in a file: complete lines. -/
def fileText (code : Text) : Text := if code = [] then [] else code ++ ['\n']

/-- The tree with code written to a file, in a folder that is created if it is missing. -/
def writeCode (tree : FileTree) (path code : Text) : Except FileFailure FileTree := do
  let tree ← tree.makeFolders ((Path.parent? path).getD [])
  tree.write path (fileText code)

/-- The tree with the code of a run in the output file, if there is one. -/
def writeOutput (tree : FileTree) (path : Option Text) (code : Text) : Except Failure FileTree :=
  match path with
  | some path => (writeCode tree path code).mapError .file
  | none => .ok tree

/-- The result of a run for machines.  The code stands in it if no file holds it. -/
def summary (path : Option Text) (o : Output) : Document := .record
  [("output_file", .optionText path),
    ("code", if path.isNone then .text o.render else .null),
    ("units", .listOf CodeUnit.document o.units), ("report", o.report.document)]

/-- What people read after code was written to a file. -/
def writtenMessages (c : Console) (path : Text) (o : Output) : Text :=
  c.success ("✓ Wrote " ++ Text.ofNat o.units.length ++ " unit(s) to " ++ path) ++
    if o.report.todos = [] then []
    else c.warning (Text.ofNat o.report.todos.length ++
      " line(s) could not be converted and were left as //TODO: comments")

/-- What a run writes to the console. -/
def convertMessages (c : Console) (path : Option Text) (report : Bool) (o : Output) : Text :=
  if !c.isHuman then c.data (summary path o)
  else
    (match path with
      | some path => writtenMessages c path o
      | none => if o.render = [] then [] else Console.line o.render) ++
      if report then c.report o.report else []

/-- Converts a rule sheet. -/
def convert (c : Console) (tree : FileTree) (stdin : Option Content) (s : Settings)
    (r : ConvertRequest) : Except Failure (Text × FileTree) := do
  let s := s.override r
  let content ← readSheet tree stdin s.inputFile
  let converter ← (Converter.new tree s.options).mapError fun f => .conversion (.source f)
  let (o, _) := converter.run tree (Line.ofSheet content)
  let tree ← writeOutput tree s.outputFile o.render
  return (convertMessages c s.outputFile r.report o, tree)

end RuleSheet.CommandLine
