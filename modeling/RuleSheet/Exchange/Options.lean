import RuleSheet.Document.Basic
import RuleSheet.Exchange.Sheet
import RuleSheet.Options

/-!
# Options as documents

The options of a run as a document, and back.  Every option has a default.

## Main definitions

* `RuleSheet.Options.document`, `Options.ofDocument?` — all options.
* `RuleSheet.Helpers.document`, `Helpers.ofDocument?` — the helper classes.
-/

set_option autoImplicit false

namespace RuleSheet

open Document (optionText)

/-- A dictionary of texts as a document. -/
def Dictionary.document (d : Dictionary Text) : Document :=
  .map (d.entries.map fun (key, value) => (key, .text value))

/-- A dictionary of texts from its document. -/
def Dictionary.ofDocument? (d : Document) : Option (Dictionary Text) :=
  (d.mapOf? (·.text?)).map Dictionary.ofList

namespace Helpers

/-- The helper classes as a document. -/
def document (h : Helpers) : Document := .record
  [("string", .text h.string), ("numeric", .text h.numeric), ("date", .text h.date)]

/-- The helper classes from their document. -/
def ofDocument? (d : Document) : Option Helpers := do
  let r ← d.defaultedRecord? ["string", "numeric", "date"]
  let h : Helpers := {}
  return {
    string := ← r.withDefault "string" (·.text?) h.string
    numeric := ← r.withDefault "numeric" (·.text?) h.numeric
    date := ← r.withDefault "date" (·.text?) h.date }

end Helpers

namespace Options

/-- The options as a document. -/
def document (o : Options) : Document := .record
  [("mode", .text o.mode.keyword), ("entity_files", o.entityFiles.document),
    ("entity_instances", o.entityInstances.document), ("postprocess", .flag o.postprocess),
    ("definitions_file", optionText o.definitionsFile), ("unrecognized", .text o.policy.keyword),
    ("block_scope", .text o.scope.keyword), ("emit_field_comments", .flag o.fieldComments),
    ("helpers", o.helpers.document)]

/-- The options in the fields of a record. -/
def ofRecord? (r : Document.Record) : Option Options := do
  let o : Options := {}
  return {
    mode := ← r.withDefault "mode" (·.word? Mode.keywords) o.mode
    entityFiles := ← r.withDefault "entity_files" Dictionary.ofDocument? o.entityFiles
    entityInstances := ← r.withDefault "entity_instances" Dictionary.ofDocument? o.entityInstances
    postprocess := ← r.withDefault "postprocess" (·.flag?) o.postprocess
    definitionsFile := ← r.optional "definitions_file" (·.text?)
    policy := ← r.withDefault "unrecognized" (·.word? Policy.keywords) o.policy
    scope := ← r.withDefault "block_scope" (·.word? BlockScope.keywords) o.scope
    fieldComments := ← r.withDefault "emit_field_comments" (·.flag?) o.fieldComments
    helpers := ← r.withDefault "helpers" Helpers.ofDocument? o.helpers }

/-- The options from their document. -/
def ofDocument? (d : Document) : Option Options := do
  ofRecord? (← d.defaultedRecord? ["mode", "entity_files", "entity_instances", "postprocess",
    "definitions_file", "unrecognized", "block_scope", "emit_field_comments", "helpers"])

end Options

end RuleSheet
