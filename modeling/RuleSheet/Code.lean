import RuleSheet.Lexicon
import RuleSheet.Statement

/-!
# Java code

How statements, conditions and blocks are written.

## Main definitions

* `RuleSheet.Statement.code` — a statement.
* `RuleSheet.Condition.code` — a condition, with the lexicon afterwards.
* `RuleSheet.Block.code` — a block, with the lexicon afterwards.

## Design

The operands of a condition are looked up while it is written, from left to right.  A comparison
that cannot be written leaves a marker in a comment in its place.
-/

set_option autoImplicit false

namespace RuleSheet

open Text

/-! ### Statements -/

/-- A line that is left to do, with the reason unless it only repeats the line. -/
def todoCode (kept : Text) (reason : Obstacle) : Text :=
  if reason.isUnrecognized then "//TODO: " ++ kept
  else "//TODO: " ++ kept ++ " [" ++ reason.message ++ "]"

/-- The value assigned to a variable.  Quoted bits are truth values. -/
def variableValue (value : Text) : Text :=
  if value = "'1'" then "true" else if value = "'0'" then "false" else value

/-- The code of a statement.  If field comments are wanted, the label of the field stands above
the call of its setter. -/
def Statement.code (fieldComments : Bool) : Statement → Text
  | .setField setter value label =>
    let call := setter ++ "(" ++ value ++ ");"
    match label with
    | some label => if fieldComments then "// " ++ label ++ "\n" ++ call else call
    | none => call
  | .setVariable name value => "this." ++ name ++ " = " ++ variableValue value ++ ";"
  | .setFlag name value => "this." ++ name ++ " = " ++ (if value then "true" else "false") ++ ";"
  | .todo kept reason => todoCode kept reason

/-! ### Conditions -/

/-- A text with its ends of comments broken, so that it can stand in a comment. -/
def breakCommentEnds : Text → Text
  | '*' :: '/' :: rest => '*' :: ' ' :: '/' :: breakCommentEnds rest
  | c :: rest => c :: breakCommentEnds rest
  | [] => []

/-- The marker of a comparison that could not be written. -/
def errorMarker (raw : Text) (reason : Option Obstacle) : Text :=
  match reason with
  | some reason => "/*ERROR: " ++ breakCommentEnds raw ++ " [" ++ reason.message ++ "]*/"
  | none => "/*ERROR: " ++ breakCommentEnds raw ++ "*/"

/-- The code of a comparison from the meanings of its operands.  The left one's obstacle counts
first. -/
def Comparison.written (c : Comparison) (left right : Except Obstacle Meaning) : Text :=
  match left, right with
  | .ok a, .ok b => a.expression ++ " " ++ c.relation.java ++ " " ++ b.expression
  | .error reason, _ => errorMarker c.raw (some reason)
  | .ok _, .error reason => errorMarker c.raw (some reason)

/-- The code of a comparison, with the lexicon afterwards.  Both operands are looked up. -/
def Comparison.code (tree : FileTree) (c : Comparison) (l : Lexicon) : Text × Lexicon :=
  if c.unreadable then (errorMarker c.raw none, l)
  else
    let (left, l) := l.resolve tree c.left
    let (right, l) := l.resolve tree c.right
    (c.written left right, l)

/-- The connective before a comparison. -/
def Comparison.joint (c : Comparison) : Text :=
  match c.joined with
  | some connective => " " ++ connective.java ++ " "
  | none => []

/-- The code of comparisons in a row, with the lexicon afterwards. -/
def comparisonsCode (tree : FileTree) : List Comparison → Lexicon → Text × Lexicon
  | [], l => ([], l)
  | c :: rest, l =>
    let (head, l) := c.code tree l
    let (tail, l) := comparisonsCode tree rest l
    (c.joint ++ head ++ tail, l)

/-- The code of a condition, with the lexicon afterwards. -/
def Condition.code (tree : FileTree) (c : Condition) (l : Lexicon) : Text × Lexicon :=
  let (inside, l) := comparisonsCode tree c.parts l
  ("if(" ++ inside ++ ")", l)

/-! ### Blocks -/

/-- A line of code inside a block. -/
def indentedLine (line : Text) : Text := "    " ++ line ++ "\n"

/-- The code of a block, with the lexicon afterwards. -/
def Block.code (tree : FileTree) (fieldComments : Bool) (b : Block) (l : Lexicon) :
    Text × Lexicon :=
  let (condition, l) := b.condition.code tree l
  let body := b.statements.flatMap fun s => (lines (s.code fieldComments)).flatMap indentedLine
  (condition ++ " \x7b\n" ++ body ++ "\x7d", l)

end RuleSheet
