import RuleSheet.Condition
import RuleSheet.Obstacle

/-!
# Statements and clauses

What a rule line comes to: a statement, a piece of a condition, or nothing that is known.

## Main definitions

* `RuleSheet.Statement` — an assignment, or a line that is left to do by hand.
* `RuleSheet.Clause` — what a line contributes to the sheet.
* `RuleSheet.Block` — a condition and the statements that it guards.
-/

set_option autoImplicit false

namespace RuleSheet

/-- A statement of the generated code. -/
inductive Statement where
  /-- Calls a setter. -/
  | setField (setter value : Text) (label : Option Text)
  /-- Assigns a value to a variable. -/
  | setVariable (name value : Text)
  /-- Assigns a truth value to a flag. -/
  | setFlag (name : Text) (value : Bool)
  /-- Keeps a line as a comment, to be done by hand. -/
  | todo (kept : Text) (reason : Obstacle)
  deriving DecidableEq, Repr

namespace Statement

/-- The line that is left to do, if the statement is one. -/
def todoLine? : Statement → Option Text
  | .todo kept _ => some kept
  | _ => none

/-- Whether the line is left to do by hand. -/
def isTodo (s : Statement) : Bool := s.todoLine?.isSome

end Statement

/-- What a line contributes to the sheet. -/
inductive Clause where
  /-- The start of a condition. -/
  | opening (part : Comparison)
  /-- A further comparison of the condition before it. -/
  | continuation (connective : Connective) (part : Comparison)
  /-- A statement. -/
  | statement (s : Statement)
  /-- Nothing that is known. -/
  | unrecognized (text : Text)
  deriving DecidableEq, Repr

/-- A condition and the statements that it guards. -/
structure Block where
  /-- The number of the line that starts the condition. -/
  line : Nat
  /-- The condition. -/
  condition : Condition
  /-- The statements. -/
  statements : List Statement
  deriving DecidableEq, Repr

namespace Block

/-- A block with its first comparison. -/
def start (line : Nat) (first : Comparison) : Block := ⟨line, .of first, []⟩

/-- Whether the block already keeps the same line to be done by hand. -/
def repeats (b : Block) (s : Statement) : Bool :=
  match s.todoLine? with
  | none => false
  | some kept => b.statements.any fun other => other.todoLine? = some kept

/-- The block with one more statement.  A line that it already keeps is not kept twice. -/
def add (b : Block) (s : Statement) : Block :=
  if b.repeats s then b else { b with statements := b.statements ++ [s] }

/-- The block with one more comparison in its condition. -/
def extend (b : Block) (connective : Connective) (part : Comparison) : Block :=
  { b with condition := b.condition.extend connective part }

end Block

end RuleSheet
