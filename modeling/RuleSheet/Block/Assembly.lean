import RuleSheet.Options
import RuleSheet.Statement

/-!
# Assembling blocks

Clauses arrive in the order of the sheet.  At most one block is open at a time; a statement joins
it or stands alone, as the scope of blocks says.

## Main definitions

* `RuleSheet.SheetLine` — a clause with its place in the sheet.
* `RuleSheet.Piece` — a block or a statement that stands alone.
* `RuleSheet.Assembly` — the open block, the finished pieces, the lines left out.
* `RuleSheet.Assembly.push`, `blank`, `finish` — one more line, a blank line, the end.
-/

set_option autoImplicit false

namespace RuleSheet

/-- A clause with its place in the sheet. -/
structure SheetLine where
  /-- The number of the line, counted from one. -/
  number : Nat
  /-- Whether it is indented. -/
  indented : Bool
  /-- Its normal form. -/
  text : Text
  /-- What it contributes. -/
  clause : Clause
  deriving DecidableEq, Repr

/-- A block, or a statement that stands alone. -/
inductive Piece where
  /-- A block. -/
  | block (b : Block)
  /-- A statement under the number of its line. -/
  | alone (line : Nat) (s : Statement)
  deriving DecidableEq, Repr

/-- The number of the line that a piece starts with. -/
def Piece.line : Piece → Nat
  | .block b => b.line
  | .alone line _ => line

/-- The state of the assembly. -/
structure Assembly where
  /-- The block that is open. -/
  current : Option Block
  /-- The finished pieces in the order in which they were finished. -/
  pieces : List Piece
  /-- The number of lines left out. -/
  skipped : Nat
  deriving DecidableEq, Repr

namespace Assembly

/-- Before the first line. -/
def start : Assembly := ⟨none, [], 0⟩

/-- The assembly with its open block finished. -/
def close (a : Assembly) : Assembly :=
  match a.current with
  | none => a
  | some b => { a with current := none, pieces := a.pieces ++ [.block b] }

/-- The assembly with one more statement that stands alone. -/
def emit (a : Assembly) (line : Nat) (s : Statement) : Assembly :=
  { a with pieces := a.pieces ++ [.alone line s] }

/-- The open block, if a line joins it. -/
def accepting (scope : BlockScope) (a : Assembly) (indented : Bool) : Option Block :=
  if scope = .untilNextCondition ∨ indented then a.current else none

/-- The statement that keeps a line which is not recognised. -/
def unrecognized (text : Text) : Statement := .todo text (.unrecognized text)

/-- The statement that keeps a comparison without a condition before it. -/
def orphan (text : Text) : Statement :=
  .todo text (.unrecognized "continuation without an open condition")

/-- The assembly after one more line. -/
def push (scope : BlockScope) (policy : Policy) (a : Assembly) (line : SheetLine) : Assembly :=
  match line.clause with
  | .opening part => { a.close with current := some (.start line.number part) }
  | .continuation connective part =>
    match a.current with
    | some b => { a with current := some (b.extend connective part) }
    | none => a.emit line.number (orphan line.text)
  | .statement s =>
    match a.accepting scope line.indented with
    | some b => { a with current := some (b.add s) }
    | none => a.close.emit line.number s
  | .unrecognized text =>
    match a.accepting scope line.indented with
    | some b => { a with current := some (b.add (unrecognized text)) }
    | none =>
      match policy with
      | .todo => a.close.emit line.number (unrecognized text)
      | .skip => { a.close with skipped := a.skipped + 1 }

/-- The assembly after a blank line, which ends a block of indented lines. -/
def blank (scope : BlockScope) (a : Assembly) : Assembly :=
  match scope with
  | .indented => a.close
  | .untilNextCondition => a

/-- The assembly after a line that may be blank. -/
def step (scope : BlockScope) (policy : Policy) (a : Assembly) : Option SheetLine → Assembly
  | none => a.blank scope
  | some line => a.push scope policy line

/-- All pieces in the order of their lines, and the number of lines left out. -/
def finish (a : Assembly) : List Piece × Nat :=
  (a.close.pieces.mergeSort fun p q => p.line ≤ q.line, a.skipped)

/-- The pieces of a sheet, and the number of lines left out. -/
def ofLines (scope : BlockScope) (policy : Policy) (lines : List (Option SheetLine)) :
    List Piece × Nat :=
  (lines.foldl (step scope policy) start).finish

end Assembly

end RuleSheet
