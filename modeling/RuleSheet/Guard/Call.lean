import RuleSheet.Guard.Scan
import RuleSheet.Lexicon
import RuleSheet.Options
import RuleSheet.Variables

/-!
# Calls for comparisons

Java's `==` compares references, so a comparison of values has to call a helper.  Every comparison
on the top level of a generated condition becomes a call of the helper for the type of its
operands.  A condition with an error marker is commented out instead.

## Main definitions

* `RuleSheet.Guard.Knowledge` — what the choice of a helper rests on.
* `RuleSheet.Guard.helper?` — the helper for two operands.
* `RuleSheet.Guard.call?` — the call that replaces a comparison.
* `RuleSheet.Guard.process` — a generated unit with the comparisons of its condition replaced.
-/

set_option autoImplicit false

namespace RuleSheet.Guard

open Text

/-- What the choice of a helper rests on. -/
structure Knowledge where
  /-- The types of expressions. -/
  types : TypeIndex
  /-- The variables. -/
  defined : Variables
  /-- The helper classes. -/
  helpers : Helpers

/-! ### The helper of a comparison -/

/-- The function of a helper that answers a comparison, up to negation. -/
def Operator.function : Operator → Text
  | .eq | .ne => "eq"
  | .gt => "gt"
  | .ge => "ge"
  | .lt => "lt"
  | .le => "le"

/-- The mark of a negated call. -/
def Operator.negation : Operator → Text
  | .ne => "!"
  | _ => []

/-- The helper for values of a type. -/
def helperFor? (helpers : Helpers) : ValueType → Option Text
  | .numeric | .long => some helpers.numeric
  | .string => some helpers.string
  | .date => some helpers.date
  | .boolean | .unknown => none

/-- The helper for an operand whose type is known. -/
def typedHelper? (k : Knowledge) (operand : Text) : Option Text :=
  (k.types.find? operand).bind (helperFor? k.helpers)

/-- A number as Java writes it, with a sign and points at will. -/
def isBareNumber (t : Text) : Bool :=
  let digits := match t with
    | '-' :: rest => rest
    | _ => t
  digits.all (fun c => Char.isDigit c || c = '.') && digits.any Char.isDigit

/-- A text in quotes. -/
def isQuoted : Text → Bool
  | c :: d :: rest => (c = '"' || c = '\'') && (d :: rest).getLast? = some c
  | _ => false

/-- The helper for two operands: by the type of the left one, of the right one, by the definitions
if both are variables, and by the form of the right one. -/
def helper? (k : Knowledge) (left right : Text) : Option Text :=
  match typedHelper? k left <|> typedHelper? k right with
  | some helper => some helper
  | none =>
    match after? "this." left, after? "this." right with
    | some a, some b =>
      some (if k.defined.isNumeric a || k.defined.isNumeric b then k.helpers.numeric
        else k.helpers.string)
    | _, _ =>
      if isBareNumber right then some k.helpers.numeric
      else if isQuoted right then some k.helpers.string
      else none

/-- The call that replaces a comparison.  A comparison with the empty text asks whether the left
operand is empty. -/
def call? (k : Knowledge) (comparison : Text) : Option Text := do
  let (left, op, right) ← operator? comparison
  let left := trim left
  let right := trim right
  if left = [] ∨ right = [] then none
  else if right = "\"\"" ∧ (op = .eq ∨ op = .ne) then
    return op.negation ++ k.helpers.string ++ ".isEmpty(" ++ left ++ ")"
  else
    let helper ← helper? k left right
    return op.negation ++ helper ++ "." ++ op.function ++ "(" ++ left ++ ", " ++ right ++ ")"

/-! ### Whole conditions -/

/-- The blanks at the end of a text. -/
def trailingBlanks (t : Text) : Text := (t.reverse.takeWhile isBlank).reverse

/-- An operand with its comparison replaced, and whether it was. -/
def replaceOperand (k : Knowledge) (operand : Text) : Text × Bool :=
  let call := call? k (trim operand)
  (operand.takeWhile isBlank ++ call.getD (trim operand) ++ trailingBlanks operand, call.isSome)

/-- A condition with its comparisons replaced, and how many were. -/
def replaceComparisons (k : Knowledge) (condition : Text) : Text × Nat :=
  let (first, more) := splitTop condition
  let head := replaceOperand k first
  let tail := more.map fun (separator, operand) => (separator, replaceOperand k operand)
  (head.1 ++ tail.flatMap fun (separator, operand, _) => separator ++ operand,
    (head.2 :: tail.map fun (_, _, changed) => changed).count true)

/-- The line that keeps the text of a marker. -/
def todoLine (body : Text) : Text := "//TODO: " ++ body ++ "\n"

/-- Every line of the code in a comment, below the texts of the markers. -/
def commentOut (code : Text) (marked : List Text) : Text :=
  marked.flatMap todoLine ++
    join ['\n'] ((lines code).map fun line => "//" ++ line)

/-- The line above code that has to be looked at by hand. -/
def reviewMarker : Text := "//TODO: manual review required"

/-- A processed unit. -/
structure Processed where
  /-- The code. -/
  code : Text
  /-- How many comparisons were replaced. -/
  replaced : Nat
  deriving DecidableEq, Repr

/-- What follows the opening bracket of a condition: the head of the code up to it, and the rest. -/
def opened? (code : Text) : Option (Text × Text) :=
  match after? "if" code with
  | none => none
  | some rest =>
    match trimStart rest with
    | '(' :: body => some ("if" ++ rest.takeWhile isBlank ++ "(", body)
    | _ => none

/-- A generated unit with the comparisons of its condition replaced.  Code that is not an `if`
stays as it is, and a condition that is never closed is marked for review. -/
def process (k : Knowledge) (code : Text) : Processed :=
  match opened? code with
  | none => ⟨code, 0⟩
  | some (head, body) =>
    match closing? body with
    | none => ⟨reviewMarker ++ "\n" ++ code, 0⟩
    | some (condition, rest) =>
      match markers condition with
      | [] =>
        let (condition, replaced) := replaceComparisons k condition
        ⟨head ++ condition ++ ")" ++ rest, replaced⟩
      | marked => ⟨commentOut code marked, 0⟩

end RuleSheet.Guard
