import RuleSheet.CommandLine.Failure
import RuleSheet.Document.Yaml.Reader
import RuleSheet.Exchange.Options

/-!
# Settings

The settings of the command line, and the file that they are read from.  Relative paths in a
settings file are taken from the folder that holds it.

## Main definitions

* `RuleSheet.CommandLine.Settings` — input, output, options and logging.
* `RuleSheet.CommandLine.Settings.document`, `ofDocument?` — the settings as a document, and back.
* `RuleSheet.CommandLine.Settings.load` — the settings of a run.
* `RuleSheet.CommandLine.Settings.starter` — a settings file to start from.
-/

set_option autoImplicit false

namespace RuleSheet.CommandLine

open Text
open Document (optionText)

/-- The settings of the command line. -/
structure Settings where
  /-- The rule sheet to convert. -/
  inputFile : Option Text := none
  /-- The file that code is written to. -/
  outputFile : Option Text := none
  /-- The options of the conversion. -/
  options : Options := {}
  /-- The least level that is logged. -/
  logLevel : Option Text := none
  /-- The format of log lines. -/
  logFormat : Option Text := none
  /-- The file that the settings were read from. -/
  source : Option Text := none

namespace Settings

/-! ### As documents -/

/-- The fields of the conversion part, in their order. -/
def converterFields : List String :=
  ["input_file", "output_file", "mode", "postprocess", "definitions_file", "unrecognized",
    "block_scope", "emit_field_comments", "entity_files", "entity_instances", "helpers"]

/-- The settings as a document. -/
def document (s : Settings) : Document :=
  let o := s.options
  .record
    [("converter", .record
        [("input_file", optionText s.inputFile), ("output_file", optionText s.outputFile),
          ("mode", .text o.mode.keyword), ("postprocess", .flag o.postprocess),
          ("definitions_file", optionText o.definitionsFile),
          ("unrecognized", .text o.policy.keyword), ("block_scope", .text o.scope.keyword),
          ("emit_field_comments", .flag o.fieldComments),
          ("entity_files", o.entityFiles.document),
          ("entity_instances", o.entityInstances.document), ("helpers", o.helpers.document)]),
      ("logging", .record
        [("level", optionText s.logLevel), ("format", optionText s.logFormat)])]

/-- The settings with the conversion part of a document. -/
def withConverter? (s : Settings) (d : Document) : Option Settings := do
  let r ← d.defaultedRecord? converterFields
  return { s with
    inputFile := ← r.optional "input_file" (·.text?)
    outputFile := ← r.optional "output_file" (·.text?)
    options := ← Options.ofRecord? r }

/-- The settings with the logging part of a document. -/
def withLogging? (s : Settings) (d : Document) : Option Settings := do
  let r ← d.defaultedRecord? ["level", "format"]
  return { s with
    logLevel := ← r.optional "level" (·.text?)
    logFormat := ← r.optional "format" (·.text?) }

/-- The settings of a document.  Every part and every field has a default. -/
def ofDocument? (d : Document) : Option Settings := do
  let r ← d.defaultedRecord? ["converter", "logging"]
  let s ← r.withDefault "converter" (withConverter? {}) {}
  r.withDefault "logging" (withLogging? s) s

/-! ### Files -/

/-- The settings with their paths taken from a base folder. -/
def relativeTo (base : Text) (s : Settings) : Settings :=
  { s with
    inputFile := s.inputFile.map (Path.join base)
    outputFile := s.outputFile.map (Path.join base)
    options := s.options.relativeTo base }

/-- The settings of a text, in JSON or in YAML as the name of its file says. -/
def ofText (path content : Text) : Except Failure Settings :=
  if Path.suffix? path = some "json".toList then
    match (Document.ofJson? content).bind ofDocument? with
    | some s => .ok s
    | none => .error .json
  else
    match (Document.ofYaml? content).bind ofDocument? with
    | some s => .ok s
    | none => .error .yaml

/-- The settings of a file. -/
def ofFile (tree : FileTree) (path : Text) : Except Failure Settings := do
  if !tree.hasEntry path then throw (.fileNotFound path)
  let content ← (tree.read path).mapError .file
  let s ← ofText path content
  return { s.relativeTo ((Path.parent? path).getD []) with source := some path }

/-- The files that are looked for if none is named, the first before the others. -/
def defaultFiles : List Text := ["rulegen.yaml", ".rulegen.yaml", "rulegen.json"]

/-- The settings of a run: those of the file that was named, or of the first default file that is
there, or the defaults. -/
def load (tree : FileTree) (named : Option Text) : Except Failure Settings :=
  match named with
  | some path => ofFile tree path
  | none =>
    match defaultFiles.find? tree.hasEntry with
    | some path => (ofFile tree path).mapError fun f => .settings (path ++ ": " ++ f.message)
    | none => .ok {}

/-- The lines of a settings file to start from. -/
def starterLines : List Text :=
  ["# rulegen configuration",
    "converter:",
    "  input_file: input/rules.txt",
    "  output_file: output/Rules.java",
    "  mode: block                 # block | line",
    "  postprocess: false",
    "  # definitions_file: input/Definitions.java",
    "  unrecognized: skip          # skip | todo",
    "  block_scope: until_next_condition  # until_next_condition | indented",
    "  emit_field_comments: false",
    "  entity_files: \x7b\x7d",
    "  #   手袋(Ｌ０１): input/TestTable1BaseEntity.java",
    "  entity_instances: \x7b\x7d",
    "  #   手袋(Ｌ０１): glove",
    "  helpers:",
    "    string: StrUtil",
    "    numeric: NumUtil",
    "    date: DateUtil",
    "logging:",
    "  level: warn",
    "  format: compact             # compact | full | json"]

/-- A settings file to start from. -/
def starter : Text := starterLines.flatMap fun line => line ++ ['\n']

end Settings

end RuleSheet.CommandLine
