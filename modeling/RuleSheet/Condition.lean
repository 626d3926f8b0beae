import RuleSheet.Text.Bracket

/-!
# Conditions

A condition is a chain of comparisons.  Its operands are the words of the rule line; what they
stand for is decided when code is written.

## Main definitions

* `RuleSheet.Connective`, `RuleSheet.Relation` — how comparisons are joined and what they say.
* `RuleSheet.Comparison` — one comparison, with `Comparison.ofText` for the text of a rule line.
* `RuleSheet.Condition` — comparisons in their order.
-/

set_option autoImplicit false

namespace RuleSheet

open Text

/-- How a comparison is joined to the one before it. -/
inductive Connective where
  /-- Both hold. -/
  | and
  /-- One of them holds. -/
  | or
  deriving DecidableEq, Repr

/-- The Java operator. -/
def Connective.java : Connective → Text
  | .and => "&&"
  | .or => "||"

/-- What a comparison says. -/
inductive Relation where
  /-- The operands are equal. -/
  | equal
  /-- The operands differ. -/
  | notEqual
  deriving DecidableEq, Repr

namespace Relation

/-- The Java operator. -/
def java : Relation → Text
  | .equal => "=="
  | .notEqual => "!="

/-- The relation that a sign stands for. -/
def ofChar? (c : Char) : Option Relation :=
  if c = '＝' || c = '=' then some .equal else if c = '≠' then some .notEqual else none

/-- The relation that a token stands for. -/
def ofToken? : Text → Option Relation
  | [c] => ofChar? c
  | _ => none

end Relation

/-- One comparison of a condition. -/
structure Comparison where
  /-- How it is joined to the one before it. -/
  joined : Option Connective
  /-- The left operand. -/
  left : Text
  /-- What it says. -/
  relation : Relation
  /-- The right operand. -/
  right : Text
  /-- Whether the text could not be read as a comparison. -/
  unreadable : Bool
  /-- The text that it was read from. -/
  raw : Text
  deriving DecidableEq, Repr

namespace Comparison

/-- A comparison of two operands. -/
def of (left : Text) (relation : Relation) (right raw : Text) : Comparison :=
  ⟨none, left, relation, right, false, raw⟩

/-- A text that could not be read. -/
def unread (raw : Text) : Comparison := ⟨none, [], .equal, [], true, raw⟩

/-- What stands before and after the first relation sign outside of corner brackets, given the
number of brackets that are open. -/
def splitFrom (depth : Nat) : Text → Option (Text × Relation × Text)
  | [] => none
  | c :: rest =>
    match if depth = 0 then Relation.ofChar? c else none with
    | some relation => some ([], relation, rest)
    | none =>
      (splitFrom (Bracket.corner.depthAfter depth c) rest).map
        fun (left, relation, right) => (c :: left, relation, right)

/-- The comparison that a text makes.  It is split at its first relation sign outside of
references, and both sides have to say something. -/
def ofText (t : Text) : Comparison :=
  let t := trim t
  match splitFrom 0 t with
  | none => unread t
  | some (left, relation, right) =>
    if trim left = [] ∨ trim right = [] then unread t
    else of (trim left) relation (trim right) t

end Comparison

/-- Comparisons in their order.  Only the first has no connective. -/
structure Condition where
  /-- The comparisons. -/
  parts : List Comparison
  deriving DecidableEq, Repr

namespace Condition

/-- A condition without comparisons. -/
def empty : Condition := ⟨[]⟩

/-- A condition of one comparison. -/
def of (first : Comparison) : Condition := ⟨[{ first with joined := none }]⟩

/-- The condition with one more comparison. -/
def extend (c : Condition) (connective : Connective) (part : Comparison) : Condition :=
  ⟨c.parts ++ [{ part with joined := if c.parts = [] then none else some connective }]⟩

end Condition

end RuleSheet
