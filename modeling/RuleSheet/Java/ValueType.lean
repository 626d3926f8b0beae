import RuleSheet.Text.Basic

/-!
# Types of values

The declared type of a Java variable decides which helper compares it.  Only its last segment
counts, so `java.math.BigDecimal` and `BigDecimal` are one type.

## Main definitions

* `RuleSheet.ValueType` — the kinds of values that comparisons tell apart.
* `RuleSheet.ValueType.ofDeclared` — the kind of a declared type.
-/

set_option autoImplicit false

namespace RuleSheet

/-- The kinds of values that comparisons tell apart. -/
inductive ValueType where
  /-- Texts. -/
  | string
  /-- Numbers of all kinds but `long`. -/
  | numeric
  /-- Numbers of the kind `long`. -/
  | long
  /-- Dates and times. -/
  | date
  /-- Truth values. -/
  | boolean
  /-- Everything else. -/
  | unknown
  deriving DecidableEq, Repr

namespace ValueType

/-- The part of a declared type after its last dot. -/
def simpleName (declared : Text) : Text := (declared.splitOn '.').getLastD []

/-- The kind of a declared type. -/
def ofDeclared (declared : Text) : ValueType :=
  match String.ofList (simpleName declared) with
  | "Integer" | "int" | "Double" | "double" | "Float" | "float" | "Short" | "short"
  | "BigDecimal" => .numeric
  | "Long" | "long" => .long
  | "String" => .string
  | "Date" | "LocalDate" | "LocalDateTime" | "Timestamp" => .date
  | "Boolean" | "boolean" => .boolean
  | _ => .unknown

/-- Whether values of this kind are compared as numbers. -/
def isNumeric : ValueType → Bool
  | .numeric | .long => true
  | _ => false

/-- The name of the kind for a reader. -/
def name : ValueType → Text
  | .string => "String"
  | .numeric => "Numeric"
  | .long => "Long"
  | .date => "Date"
  | .boolean => "Boolean"
  | .unknown => "Unknown"

/-- The word for the kind in a document. -/
def word : ValueType → Text
  | .string => "string"
  | .numeric => "numeric"
  | .long => "long"
  | .date => "date"
  | .boolean => "boolean"
  | .unknown => "unknown"

/-- All kinds. -/
def all : List ValueType := [.string, .numeric, .long, .date, .boolean, .unknown]

/-- The kind that a word stands for. -/
def ofWord? (w : Text) : Option ValueType := all.find? fun k => k.word = w

end ValueType

end RuleSheet
