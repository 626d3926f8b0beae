import RuleSheet.Text.Basic

/-!
# Obstacles

Why a line, or an operand in it, could not be turned into code.  An obstacle never ends a run: the
line is kept in a comment, with the reason behind it.

## Main definitions

* `RuleSheet.Obstacle` — the reasons.
* `RuleSheet.Obstacle.message`, `code` — the wording and the short code of a reason.
-/

set_option autoImplicit false

namespace RuleSheet

/-- Why a line or an operand could not be turned into code. -/
inductive Obstacle where
  /-- No source is known for the entity, or it cannot be read. -/
  | entityNotFound (entity : Text)
  /-- The entity has no field with the label. -/
  | fieldNotFound (entity label : Text)
  /-- The value is of no supported form. -/
  | unsupportedValue (value : Text)
  /-- The text has no known form. -/
  | unrecognized (text : Text)
  deriving DecidableEq, Repr

namespace Obstacle

/-- The wording of a reason. -/
def message : Obstacle → Text
  | .entityNotFound entity => "entity not found: " ++ entity
  | .fieldNotFound entity label => "field not found: " ++ entity ++ ".(" ++ label ++ ")"
  | .unsupportedValue value => "unsupported value: " ++ value
  | .unrecognized text => "unrecognized pattern: " ++ text

/-- The short code of a reason. -/
def code : Obstacle → Text
  | .entityNotFound _ => "ENTITY_NOT_FOUND"
  | .fieldNotFound _ _ => "FIELD_NOT_FOUND"
  | .unsupportedValue _ => "UNSUPPORTED_VALUE"
  | .unrecognized _ => "PATTERN_MISMATCH"

/-- Whether the reason says no more than the line itself. -/
def isUnrecognized : Obstacle → Bool
  | .unrecognized _ => true
  | _ => false

end Obstacle

end RuleSheet
