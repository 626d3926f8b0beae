import RuleSheet.Conversion.Basic
import RuleSheet.Document.Basic

/-!
# Reports as documents

The result of a run as a document, and a report read back from one.

## Main definitions

* `RuleSheet.Output.document`, `Report.document`, `CodeUnit.document`, `TodoItem.document`.
* `RuleSheet.Report.ofDocument?` — a report from its document.
-/

set_option autoImplicit false

namespace RuleSheet

open Document (listOf)

/-- A unit of code as a document. -/
def CodeUnit.document (u : CodeUnit) : Document := .record
  [("line", .count u.line), ("kind", .text u.kind.word), ("code", .text u.code)]

namespace TodoItem

/-- A line left to do as a document. -/
def document (t : TodoItem) : Document := .record
  [("line", .count t.line), ("original", .text t.kept), ("code", .text t.code),
    ("reason", .text t.reason)]

/-- A line left to do from its document. -/
def ofDocument? (d : Document) : Option TodoItem := do
  let r ← d.record? ["line", "original", "code", "reason"]
  return {
    line := ← r.required "line" (·.count?)
    kept := ← r.required "original" (·.text?)
    code := ← r.required "code" (·.text?)
    reason := ← r.required "reason" (·.text?) }

end TodoItem

namespace Report

/-- A report as a document. -/
def document (r : Report) : Document := .record
  [("lines_read", .count r.linesRead), ("blank_lines", .count r.blankLines),
    ("skipped_lines", .count r.skippedLines), ("blocks", .count r.blocks),
    ("standalone", .count r.standalone), ("todos", listOf TodoItem.document r.todos),
    ("comparisons_rewritten", .count r.comparisonsReplaced),
    ("entities_loaded", .count r.entitiesLoaded)]

/-- A report from its document. -/
def ofDocument? (d : Document) : Option Report := do
  let r ← d.record? ["lines_read", "blank_lines", "skipped_lines", "blocks", "standalone", "todos",
    "comparisons_rewritten", "entities_loaded"]
  return {
    linesRead := ← r.required "lines_read" (·.count?)
    blankLines := ← r.required "blank_lines" (·.count?)
    skippedLines := ← r.required "skipped_lines" (·.count?)
    blocks := ← r.required "blocks" (·.count?)
    standalone := ← r.required "standalone" (·.count?)
    todos := ← r.required "todos" (·.listOf? TodoItem.ofDocument?)
    comparisonsReplaced := ← r.required "comparisons_rewritten" (·.count?)
    entitiesLoaded := ← r.required "entities_loaded" (·.count?) }

end Report

/-- The result of a run as a document. -/
def Output.document (o : Output) : Document := .record
  [("units", listOf CodeUnit.document o.units), ("report", o.report.document)]

end RuleSheet
