import RuleSheet.Text.Basic

/-!
# Scanning conditions

The condition of a generated `if` is plain Java text.  Three scans run over it, and all of them
skip string and character literals in the same way.

## Main definitions

* `RuleSheet.Guard.Quoting` — whether the scan is inside a literal.
* `RuleSheet.Guard.closing?` — the text up to the round bracket that closes an open one.
* `RuleSheet.Guard.splitTop` — the operands between the logical operators of the top level.
* `RuleSheet.Guard.operator?` — the first comparison operator of the top level.
* `RuleSheet.Guard.markers` — the error markers in a condition.
-/

set_option autoImplicit false

namespace RuleSheet.Guard

open Text

/-! ### Literals -/

/-- Whether the scan is inside a literal. -/
inductive Quoting where
  /-- Outside of literals. -/
  | outside
  /-- Inside a literal that ends at the quote; `escaped` after a backslash. -/
  | inside (quote : Char) (escaped : Bool)
  deriving DecidableEq, Repr

/-- After one more character.  A backslash takes the character after it out of account. -/
def Quoting.step : Quoting → Char → Quoting
  | .outside, c => if c = '"' || c = '\'' then .inside c false else .outside
  | .inside quote true, _ => .inside quote false
  | .inside quote false, c =>
    if c = '\\' then .inside quote true else if c = quote then .outside else .inside quote false

/-- The nesting depth after a character outside of literals.  A closing bracket without a partner
counts for nothing. -/
def depthAfter (q : Quoting) (depth : Nat) (c : Char) : Nat :=
  if q ≠ .outside then depth
  else if c = '(' then depth + 1
  else if c = ')' then depth - 1
  else depth

/-! ### The closing bracket -/

/-- Where the search for the closing bracket stands. -/
inductive Place where
  /-- In code or in a literal. -/
  | code (q : Quoting)
  /-- Before the asterisk that opens a comment. -/
  | commentStart
  /-- In a comment; `star` after an asterisk. -/
  | comment (star : Bool)
  deriving DecidableEq, Repr

/-- The place after a character, given the text that follows it. -/
def Place.step (rest : Text) : Place → Char → Place
  | .code .outside, c =>
    if c = '/' ∧ startsWith "*" rest then .commentStart else .code (Quoting.outside.step c)
  | .code q, c => .code (q.step c)
  | .commentStart, _ => .comment false
  | .comment star, c => if star ∧ c = '/' then .code .outside else .comment (c = '*')

/-- The text up to the bracket that closes an open one, and the text after it.  `depth` counts
the brackets that were opened since.  Literals and comments are skipped. -/
def closingFrom? (depth : Nat) (p : Place) : Text → Option (Text × Text)
  | [] => none
  | c :: rest =>
    if p = .code .outside ∧ c = ')' ∧ depth = 0 then some ([], rest)
    else
      let depth := if p = .code .outside then depthAfter .outside depth c else depth
      (closingFrom? depth (p.step rest c) rest).map fun (inside, after) => (c :: inside, after)

/-- The text up to the bracket that closes an open one, and the text after it. -/
def closing? (t : Text) : Option (Text × Text) := closingFrom? 0 (.code .outside) t

/-! ### Operands -/

/-- The first operand, and the further ones, each with the logical operator before it. -/
def splitFrom (depth : Nat) (q : Quoting) : Text → Text × List (Text × Text)
  | [] => ([], [])
  | [c] => ([c], [])
  | c :: d :: rest =>
    if q = .outside ∧ depth = 0 ∧ (c = '&' ∨ c = '|') ∧ d = c then
      let (first, more) := splitFrom 0 .outside rest
      ([], ([c, d], first) :: more)
    else
      let (first, more) := splitFrom (depthAfter q depth c) (q.step c) (d :: rest)
      (c :: first, more)

/-- The operands between the logical operators outside of brackets and literals. -/
def splitTop (condition : Text) : Text × List (Text × Text) := splitFrom 0 .outside condition

/-! ### Comparison operators -/

/-- The comparison operators of Java. -/
inductive Operator where
  /-- Equal. -/
  | eq
  /-- Not equal. -/
  | ne
  /-- Greater or equal. -/
  | ge
  /-- Less or equal. -/
  | le
  /-- Greater. -/
  | gt
  /-- Less. -/
  | lt
  deriving DecidableEq, Repr

/-- The sign of an operator. -/
def Operator.sign : Operator → Text
  | .eq => "=="
  | .ne => "!="
  | .ge => ">="
  | .le => "<="
  | .gt => ">"
  | .lt => "<"

/-- The characters that operators are made of. -/
def isOperatorChar (c : Char) : Bool := c = '=' || c = '!' || c = '<' || c = '>'

/-- The operator at the start of a text, and what follows it. -/
def operatorHere? : Text → Option (Operator × Text)
  | '=' :: '=' :: rest => some (.eq, rest)
  | '!' :: '=' :: rest => some (.ne, rest)
  | '>' :: '=' :: rest => some (.ge, rest)
  | '<' :: '=' :: rest => some (.le, rest)
  | '>' :: rest => some (.gt, rest)
  | '<' :: rest => some (.lt, rest)
  | _ => none

/-- The operator at the start of a text, unless an equals sign follows it. -/
def cleanOperator? (t : Text) : Option (Operator × Text) :=
  match operatorHere? t with
  | some (op, rest) => if startsWith "=" rest then none else some (op, rest)
  | none => none

/-- The first operator outside of brackets and literals, with the texts on its sides.  It does not
follow another character of an operator; `before` is the character before the text. -/
def operatorFrom? (before : Option Char) (depth : Nat) (q : Quoting) :
    Text → Option (Text × Operator × Text)
  | [] => none
  | c :: rest =>
    let here :=
      if q = .outside ∧ depth = 0 ∧ !(before.any isOperatorChar) then cleanOperator? (c :: rest)
      else none
    match here with
    | some (op, after) => some ([], op, after)
    | none =>
      (operatorFrom? (some c) (depthAfter q depth c) (q.step c) rest).map
        fun (left, op, right) => (c :: left, op, right)

/-- The first operator outside of brackets and literals, with the texts on its sides. -/
def operator? (t : Text) : Option (Text × Operator × Text) := operatorFrom? none 0 .outside t

/-! ### Error markers -/

/-- The text of the error marker that a text starts with.  It stays on one line. -/
def markerHere? (t : Text) : Option Text := do
  let rest ← after? "/*ERROR: " t
  let (body, _) ← cut? "*/" rest
  if '\n' ∈ body then none else some body

/-- The texts of the error markers, after passing over some characters. -/
def markersFrom (passed : Nat) : Text → List Text
  | [] => []
  | c :: rest =>
    match passed with
    | k + 1 => markersFrom k rest
    | 0 =>
      match markerHere? (c :: rest) with
      | some body => body :: markersFrom (body.length + 10) rest
      | none => markersFrom 0 rest

/-- The texts of the error markers in a condition. -/
def markers (condition : Text) : List Text := markersFrom 0 condition

end RuleSheet.Guard
