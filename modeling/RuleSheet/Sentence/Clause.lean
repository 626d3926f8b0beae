import RuleSheet.Lexicon
import RuleSheet.Options
import RuleSheet.Sentence.Basic
import RuleSheet.Statement

/-!
# Sentences as clauses

What a recognised sentence contributes to the sheet, once its references are looked up.  A
reference that leads nowhere turns the line into one that is left to do by hand.

## Main definitions

* `RuleSheet.Sentence.clause` — the clause of a sentence, with the lexicon afterwards.
* `RuleSheet.classify` — the clause of a line.
-/

set_option autoImplicit false

namespace RuleSheet

/-- The statement that sets a field. -/
def Target.assign (t : Target) (value : Text) : Clause :=
  .statement (.setField t.setter value (some t.field.label))

/-- The clause of a line that is left to do by hand. -/
def Clause.todo (line : Text) (reason : Obstacle) : Clause := .statement (.todo line reason)

namespace Sentence

/-- What is assigned to a field that was found.  Zero is no date. -/
def fieldClause (line : Text) (target : Target) : FieldValue → Clause
  | .blank => target.assign "\"\""
  | .number digits =>
    if digits.all (· = '0') ∧ target.field.type = .date then target.assign "null"
    else target.assign digits
  | .text t => target.assign (Java.literal t)
  | .unsupported value => .todo line (.unsupportedValue value)

/-- A call of a method of the string helper. -/
def helperCall (helpers : Helpers) (method arguments : Text) : Text :=
  helpers.string ++ "." ++ method ++ "(" ++ arguments ++ ")"

/-- The expression for a slice. -/
def sliced (helpers : Helpers) (part : Option (Text × Text)) (value : Text) : Text :=
  match part with
  | none => value
  | some (first, length) =>
    helperCall helpers "mid"
      (value ++ ", " ++ Text.foldDigits first ++ ", " ++ Text.foldDigits length)

/-- The expression for an aligned text. -/
def alignedTo (helpers : Helpers) (side : Option Alignment) (value : Text) : Text :=
  match side with
  | none => value
  | some .right => helperCall helpers "alignRight" value
  | some .left => helperCall helpers "alignLeft" value

/-- The value that a copy assigns, given the expression of its source. -/
def Copy.value (c : Copy) (helpers : Helpers) (expression : Text) : Text :=
  alignedTo helpers c.aligned (sliced helpers c.slice expression)

/-- The clause of a copy whose target is known: the source is looked up, and its value is given to
the target. -/
def Copy.assigned (tree : FileTree) (helpers : Helpers) (line : Text) (c : Copy)
    (assign : Text → Clause) (l : Lexicon) : Clause × Lexicon :=
  match l.reference tree c.source with
  | (.error reason, l) => (.todo line reason, l)
  | (.ok meaning, l) => (assign (c.value helpers meaning.expression), l)

/-- The clause of a copy.  The target is looked up before the source. -/
def Copy.clause (tree : FileTree) (helpers : Helpers) (line : Text) (c : Copy) (l : Lexicon) :
    Clause × Lexicon :=
  match c.target with
  | .field entity label =>
    match l.field tree entity label with
    | (.error reason, l) => (.todo line reason, l)
    | (.ok target, l) => c.assigned tree helpers line target.assign l
  | .variable category name =>
    c.assigned tree helpers line (fun v => .statement (.setVariable (category :: name) v)) l
  | .flag name => c.assigned tree helpers line (fun v => .statement (.setVariable name v)) l

/-- The clause of a sentence, with the lexicon afterwards. -/
def clause (tree : FileTree) (helpers : Helpers) (line : Text) (s : Sentence) (l : Lexicon) :
    Clause × Lexicon :=
  match s with
  | .opening part => (.opening part, l)
  | .continuation connective part => (.continuation connective part, l)
  | .field entity label value =>
    match l.field tree entity label with
    | (.error reason, l) => (.todo line reason, l)
    | (.ok target, l) => (fieldClause line target value, l)
  | .flag name value => (.statement (.setFlag name value), l)
  | .variable name value => (.statement (.setVariable name value), l)
  | .unsupported value => (.todo line (.unsupportedValue value), l)
  | .copy c => c.clause tree helpers line l

end Sentence

/-- The clause of a line, with the lexicon afterwards. -/
def classify (tree : FileTree) (helpers : Helpers) (line : Text) (l : Lexicon) :
    Clause × Lexicon :=
  match recognize line with
  | none => (.unrecognized line, l)
  | some (_, s) => s.clause tree helpers line l

end RuleSheet
