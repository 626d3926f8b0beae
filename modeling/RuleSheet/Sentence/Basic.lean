import RuleSheet.Condition
import RuleSheet.Java.Literal
import RuleSheet.Sentence.Value

/-!
# Sentences

The sentences that a rule line can be.  Recognising one needs nothing but the words of the line;
what its references stand for is decided later.

## Main definitions

* `RuleSheet.Sentence` — the forms of sentences.
* `RuleSheet.Rule` — a named way to recognise a sentence.
* `RuleSheet.rules` — all rules in their order.
* `RuleSheet.recognize` — the sentence of the first rule that applies.
-/

set_option autoImplicit false

namespace RuleSheet

open Text

/-- What a sentence assigns to the field of an entity. -/
inductive FieldValue where
  /-- The empty value. -/
  | blank
  /-- A number, in ASCII digits. -/
  | number (digits : Text)
  /-- A text. -/
  | text (t : Text)
  /-- A value of no supported form. -/
  | unsupported (value : Text)
  deriving DecidableEq, Repr

/-- The forms of sentences. -/
inductive Sentence where
  /-- The start of a condition. -/
  | opening (part : Comparison)
  /-- A further comparison. -/
  | continuation (connective : Connective) (part : Comparison)
  /-- A value for the field of an entity. -/
  | field (entity label : Text) (value : FieldValue)
  /-- A truth value for a flag. -/
  | flag (name : Text) (value : Bool)
  /-- A Java expression for a variable. -/
  | variable (name value : Text)
  /-- A value of no supported form, for a flag or a variable. -/
  | unsupported (value : Text)
  /-- One reference for another. -/
  | copy (c : Sentence.Copy)
  deriving DecidableEq, Repr

/-- A named way to recognise a sentence. -/
structure Rule where
  /-- The name of the rule. -/
  name : Text
  /-- The sentence, if the rule applies to the line. -/
  apply : Text → Option Sentence

namespace Sentence

/-! ### Conditions -/

/-- The comparison in the text after the mark of a condition: what stands before the last `のとき`. -/
def comparison (t : Text) : Comparison :=
  match cutLast? "のとき" t with
  | some (body, _) => .ofText body
  | none => .unread (trim t)

/-- The start of a condition. -/
def opening? (line : Text) : Option Sentence :=
  (after? "》【条件】" line).map fun rest => .opening (comparison rest)

/-- A further comparison. -/
def continuation? (line : Text) : Option Sentence :=
  match after? "または、" line with
  | some rest => some (.continuation .or (comparison rest))
  | none => (after? "かつ、" line).map fun rest => .continuation .and (comparison rest)

/-! ### Fields of entities -/

/-- The empty value for a field: the word for it occurs, and no further reference. -/
def blankField? (line : Text) : Option Sentence :=
  match Reference.leading? line with
  | some (.field entity label, rest) =>
    if mentionsBlank rest && !Reference.occursIn rest then some (.field entity label .blank)
    else none
  | _ => none

/-- The number in a value, or the value itself if it is of no supported form.  Quoted literals, the
word for an empty value and references are left to other rules. -/
def equalsNumber? (value : Text) : Option FieldValue :=
  if isNumber value then some (.number (foldDigits value))
  else if (quoted? value).isSome || isBlankWord value || Reference.occursIn value then none
  else some (.unsupported (trim value))

/-- What a line assigns to a field, if it is a number or of no supported form. -/
def numberValue? (rest : Text) : Option FieldValue :=
  match equalsValue? rest with
  | some value => equalsNumber? value
  | none =>
    match assignedTo? rest with
    | some value => if isNumber value then some (.number (foldDigits value)) else none
    | none => none

/-- A number for a field. -/
def numberField? (line : Text) : Option Sentence :=
  match Reference.leading? line with
  | some (.field entity label, rest) => (numberValue? rest).map fun v => .field entity label v
  | _ => none

/-- A quoted text for a field. -/
def textField? (line : Text) : Option Sentence :=
  match Reference.leading? line with
  | some (.field entity label, rest) => do
    return .field entity label (.text (← quoted? (← assignedValue? rest)))
  | _ => none

/-! ### Flags and variables -/

/-- A bit for a flag. -/
def flagBit? (line : Text) : Option Sentence :=
  match Reference.leading? line with
  | some (.flag name, rest) =>
    if Reference.occursIn rest then none
    else match bit? rest with
      | some value => some (.flag name value)
      | none => some (.unsupported (trim rest))
  | _ => none

/-- The Java expression of the value that a line assigns to a variable. -/
def variableExpression? (rest : Text) : Option Text :=
  if mentionsBlank rest then some "\"\""
  else match bit? rest with
    | some value => some (if value then "'1'" else "'0'")
    | none =>
      match assignedValue? rest with
      | none => none
      | some value =>
        if isNumber value then some (foldDigits value) else (quoted? value).map Java.literal

/-- A value for a variable. -/
def variableValue? (line : Text) : Option Sentence :=
  match Reference.leading? line with
  | some (.variable category name, rest) =>
    if Reference.occursIn rest then none
    else match variableExpression? rest with
      | some value => some (.variable (category :: name) value)
      | none => some (.unsupported (trim rest))
  | _ => none

end Sentence

/-! ### All rules -/

/-- All rules in their order. -/
def rules : List Rule :=
  [⟨"condition_start", Sentence.opening?⟩,
    ⟨"condition_continuation", Sentence.continuation?⟩,
    ⟨"blank_assignment", Sentence.blankField?⟩,
    ⟨"numeric_assignment", Sentence.numberField?⟩,
    ⟨"boolean_assignment", Sentence.flagBit?⟩,
    ⟨"direct_assignment", Sentence.variableValue?⟩,
    ⟨"reference_assignment", fun line => (Sentence.copy? line).map .copy⟩,
    ⟨"string_assignment", Sentence.textField?⟩]

/-- The sentence of the first rule that applies, with the name of the rule. -/
def recognize (line : Text) : Option (Text × Sentence) :=
  rules.findSome? fun rule => (rule.apply line).map fun s => (rule.name, s)

/-- The names of all rules that apply. -/
def applicable (line : Text) : List Text :=
  (rules.filter fun rule => (rule.apply line).isSome).map (·.name)

end RuleSheet
