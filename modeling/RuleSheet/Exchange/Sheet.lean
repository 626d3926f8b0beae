import RuleSheet.Document.Basic
import RuleSheet.Entity.Basic
import RuleSheet.Statement
import RuleSheet.Variables

/-!
# Sheets as documents

Entities, variables, clauses and blocks as documents, and back.

## Main definitions

* `RuleSheet.Field.document`, `Entity.document`, `Variable.document` — what was extracted from
  sources.
* `RuleSheet.Comparison.document`, `Statement.document`, `Clause.document`, `Block.document` — what
  was read from a sheet.
* The functions named `ofDocument?` read them back.
-/

set_option autoImplicit false

namespace RuleSheet

open Document (option optionText listOf)

/-! ### Words -/

/-- A value from the document of its word: a text, or a map whose only entry has the word as its key
and no value. -/
def Document.word? {α : Type} (words : List (Text × α)) (d : Document) : Option α := do
  let w ← match d with
    | .map [(word, .null)] => some word
    | d => d.text?
  (words.find? fun (word, _) => word = w).map (·.2)

/-- The kind of a value from its word. -/
def ValueType.ofDocument? (d : Document) : Option ValueType := do ValueType.ofWord? (← d.text?)

/-- The word for a connective. -/
def Connective.word : Connective → Text
  | .and => "and"
  | .or => "or"

/-- A connective from its word. -/
def Connective.ofDocument? (d : Document) : Option Connective :=
  d.word? [("and", .and), ("or", .or)]

/-- The word for a relation. -/
def Relation.word : Relation → Text
  | .equal => "equal"
  | .notEqual => "not_equal"

/-- A relation from its word. -/
def Relation.ofDocument? (d : Document) : Option Relation :=
  d.word? [("equal", .equal), ("not_equal", .notEqual)]

/-! ### Entities and variables -/

namespace Field

/-- A field as a document. -/
def document (f : Field) : Document := .record
  [("table_field_name", .text f.column), ("field_identifier", .text f.identifier),
    ("comment", .text f.label), ("getter_name", .text f.getter), ("setter_name", .text f.setter),
    ("declared_type", optionText f.declared), ("semantic_type", .text f.type.word)]

/-- A field from its document. -/
def ofDocument? (d : Document) : Option Field := do
  let r ← d.record? ["table_field_name", "field_identifier", "comment", "getter_name",
    "setter_name", "declared_type", "semantic_type"]
  return {
    column := ← r.required "table_field_name" (·.text?)
    identifier := ← r.required "field_identifier" (·.text?)
    label := ← r.required "comment" (·.text?)
    getter := ← r.required "getter_name" (·.text?)
    setter := ← r.required "setter_name" (·.text?)
    declared := ← r.optional "declared_type" (·.text?)
    type := ← r.required "semantic_type" ValueType.ofDocument? }

end Field

namespace Entity

/-- An entity as a document. -/
def document (e : Entity) : Document := .record
  [("class_name", optionText e.className), ("fields", listOf Field.document e.fields)]

/-- An entity from its document. -/
def ofDocument? (d : Document) : Option Entity := do
  let r ← d.record? ["class_name", "fields"]
  return {
    className := ← r.optional "class_name" (·.text?)
    fields := ← r.required "fields" (·.listOf? Field.ofDocument?) }

end Entity

/-- A variable as a document. -/
def Variable.document (v : Variable) : Document := .record
  [("name", .text v.name), ("declared_type", .text v.declared),
    ("default_value", optionText v.initial), ("semantic_type", .text v.type.word)]

/-! ### Clauses -/

namespace Obstacle

/-- An obstacle as a document. -/
def document : Obstacle → Document
  | .entityNotFound entity =>
    .record [("kind", .text "entity_not_found"), ("entity", .text entity)]
  | .fieldNotFound entity label =>
    .record [("kind", .text "field_not_found"), ("entity", .text entity), ("comment", .text label)]
  | .unsupportedValue value =>
    .record [("kind", .text "unsupported_value"), ("value", .text value)]
  | .unrecognized text => .record [("kind", .text "pattern_mismatch"), ("text", .text text)]

/-- An obstacle from its document. -/
def ofDocument? (d : Document) : Option Obstacle := do
  let r ← d.record? ["kind", "entity", "comment", "value", "text"]
  let kind ← r.required "kind" (·.text?)
  match String.ofList kind with
  | "entity_not_found" => return .entityNotFound (← r.required "entity" (·.text?))
  | "field_not_found" =>
    return .fieldNotFound (← r.required "entity" (·.text?)) (← r.required "comment" (·.text?))
  | "unsupported_value" => return .unsupportedValue (← r.required "value" (·.text?))
  | "pattern_mismatch" => return .unrecognized (← r.required "text" (·.text?))
  | _ => none

end Obstacle

namespace Comparison

/-- A comparison as a document. -/
def document (c : Comparison) : Document := .record
  [("logical", option (fun k => .text k.word) c.joined), ("left", .text c.left),
    ("operator", .text c.relation.word), ("right", .text c.right),
    ("is_error", .flag c.unreadable), ("raw", .text c.raw)]

/-- A comparison from its document. -/
def ofDocument? (d : Document) : Option Comparison := do
  let r ← d.record? ["logical", "left", "operator", "right", "is_error", "raw"]
  return {
    joined := ← r.optional "logical" Connective.ofDocument?
    left := ← r.required "left" (·.text?)
    relation := ← r.required "operator" Relation.ofDocument?
    right := ← r.required "right" (·.text?)
    unreadable := ← r.required "is_error" (·.flag?)
    raw := ← r.required "raw" (·.text?) }

end Comparison

namespace Statement

/-- A statement as a document. -/
def document : Statement → Document
  | .setField setter value label => .record
    [("kind", .text "entity_field"), ("target", .text setter), ("value", .text value),
      ("comment", optionText label)]
  | .setVariable name value => .record
    [("kind", .text "direct_field"), ("target", .text name), ("value", .text value)]
  | .setFlag name value => .record
    [("kind", .text "boolean_field"), ("target", .text name), ("value", .flag value)]
  | .todo kept reason => .record
    [("kind", .text "todo"), ("original", .text kept), ("reason", reason.document)]

/-- A statement from its document. -/
def ofDocument? (d : Document) : Option Statement := do
  let r ← d.record? ["kind", "target", "value", "comment", "original", "reason"]
  let kind ← r.required "kind" (·.text?)
  match String.ofList kind with
  | "entity_field" =>
    return .setField (← r.required "target" (·.text?)) (← r.required "value" (·.text?))
      (← r.optional "comment" (·.text?))
  | "direct_field" =>
    return .setVariable (← r.required "target" (·.text?)) (← r.required "value" (·.text?))
  | "boolean_field" =>
    return .setFlag (← r.required "target" (·.text?)) (← r.required "value" (·.flag?))
  | "todo" =>
    return .todo (← r.required "original" (·.text?)) (← r.required "reason" Obstacle.ofDocument?)
  | _ => none

end Statement

namespace Clause

/-- A clause as a document. -/
def document : Clause → Document
  | .opening part => .record [("kind", .text "condition_start"), ("part", part.document)]
  | .continuation connective part => .record
    [("kind", .text "condition_continuation"), ("operator", .text connective.word),
      ("part", part.document)]
  | .statement s => .record [("kind", .text "assignment"), ("assignment", s.document)]
  | .unrecognized text => .record [("kind", .text "unrecognized"), ("text", .text text)]

/-- A clause from its document. -/
def ofDocument? (d : Document) : Option Clause := do
  let r ← d.record? ["kind", "part", "operator", "assignment", "text"]
  let kind ← r.required "kind" (·.text?)
  match String.ofList kind with
  | "condition_start" => return .opening (← r.required "part" Comparison.ofDocument?)
  | "condition_continuation" =>
    return .continuation (← r.required "operator" Connective.ofDocument?)
      (← r.required "part" Comparison.ofDocument?)
  | "assignment" => return .statement (← r.required "assignment" Statement.ofDocument?)
  | "unrecognized" => return .unrecognized (← r.required "text" (·.text?))
  | _ => none

end Clause

/-- A condition as a document. -/
def Condition.document (c : Condition) : Document :=
  .record [("parts", listOf Comparison.document c.parts)]

/-- A block as a document. -/
def Block.document (b : Block) : Document := .record
  [("line", .count b.line), ("condition", b.condition.document),
    ("assignments", listOf Statement.document b.statements)]

end RuleSheet
