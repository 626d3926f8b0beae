import RuleSheet.Proofs.Guard.Replacement

/-!
# The call for a comparison

The rules by which a helper is selected for two operands, and by which a comparison becomes a call.
The rules are said without the code that applies them, and the code is shown to apply them.

## Main definitions

* `RuleSheet.Guard.Selected` — the rules for the helper of two operands.
* `RuleSheet.Guard.Compared` — a comparison, taken apart.
* `RuleSheet.Guard.Becomes` — the rules for what a comparison becomes.

## Main results

* `RuleSheet.Guard.helper?_eq_some_iff` — the helper is the selected one.
* `RuleSheet.Guard.becomes_iff` — the call is the one by the rules.
* `RuleSheet.Guard.call?_eq_bind` — the call for a text comes from the comparison in it.
-/

set_option autoImplicit false

namespace RuleSheet.Guard

open Text

/-! ### The helper of two operands -/

/-- A helper serves an operand if it serves the type that is known of the operand. -/
def Typed (k : Knowledge) (operand helper : Text) : Prop :=
  ∃ type, k.types.find? operand = some type ∧
    (type, helper) ∈ [(.numeric, k.helpers.numeric), (.long, k.helpers.numeric),
      (.string, k.helpers.string), (.date, k.helpers.date)]

/-- No helper serves one of the operands. -/
def Untyped (k : Knowledge) (left right : Text) : Prop :=
  ∀ helper, ¬ Typed k left helper ∧ ¬ Typed k right helper

/-- A number, with a sign and points at will. -/
def BareNumber (t : Text) : Prop :=
  ∃ digits, (t = digits ∨ t = '-' :: digits) ∧ (∀ c ∈ digits, Char.isDigit c = true ∨ c = '.') ∧
    ∃ c ∈ digits, Char.isDigit c = true

/-- A text between two quotes of a kind. -/
def Quoted (t : Text) : Prop := ∃ quote ∈ ['"', '\''], ∃ body, t = quote :: (body ++ [quote])

/-- The rules for the helper of two operands.  Each comes after those above it. -/
inductive Selected (k : Knowledge) (left right : Text) : Text → Prop
  /-- The type of the left operand. -/
  | left {helper : Text} (hleft : Typed k left helper) : Selected k left right helper
  /-- The type of the right operand. -/
  | right {helper : Text} (hleft : ∀ h, ¬ Typed k left h) (hright : Typed k right helper) :
      Selected k left right helper
  /-- Two variables, of which one is a number. -/
  | numbers {a b : Text} (huntyped : Untyped k left right)
      (hleft : left = "this." ++ a) (hright : right = "this." ++ b)
      (hnumeric : k.defined.isNumeric a = true ∨ k.defined.isNumeric b = true) :
      Selected k left right k.helpers.numeric
  /-- Two variables, of which none is a number. -/
  | texts {a b : Text} (huntyped : Untyped k left right)
      (hleft : left = "this." ++ a) (hright : right = "this." ++ b)
      (hnumeric : ¬ (k.defined.isNumeric a = true ∨ k.defined.isNumeric b = true)) :
      Selected k left right k.helpers.string
  /-- A number on the right. -/
  | number (huntyped : Untyped k left right)
      (hvariables : ¬ ∃ a b : Text, left = "this." ++ a ∧ right = "this." ++ b)
      (hnumber : BareNumber right) : Selected k left right k.helpers.numeric
  /-- A literal on the right. -/
  | literal (huntyped : Untyped k left right)
      (hvariables : ¬ ∃ a b : Text, left = "this." ++ a ∧ right = "this." ++ b)
      (hnumber : ¬ BareNumber right) (hquoted : Quoted right) :
      Selected k left right k.helpers.string

lemma typedHelper?_eq_some_iff (k : Knowledge) (operand helper : Text) :
    typedHelper? k operand = some helper ↔ Typed k operand helper := by
  rw [typedHelper?, Option.bind_eq_some_iff]
  refine exists_congr fun type => and_congr_right fun _ => ?_
  cases type <;> simp [helperFor?, eq_comm]

lemma typedHelper?_eq_none_iff (k : Knowledge) (operand : Text) :
    typedHelper? k operand = none ↔ ∀ helper, ¬ Typed k operand helper := by
  rw [Option.eq_none_iff_forall_ne_some]
  exact forall_congr' fun helper => not_congr (typedHelper?_eq_some_iff k operand helper)

/-- The test for numbers. -/
lemma isBareNumber_iff (t : Text) : isBareNumber t = true ↔ BareNumber t := by
  have hdigits : ∀ digits : Text, (digits.all (fun c => Char.isDigit c || c = '.') &&
      digits.any Char.isDigit) = true ↔
        (∀ c ∈ digits, Char.isDigit c = true ∨ c = '.') ∧ ∃ c ∈ digits, Char.isDigit c = true := by
    intro digits
    simp [List.all_eq_true, List.any_eq_true]
  unfold isBareNumber
  split
  next rest =>
    rw [hdigits]
    constructor
    · exact fun h => ⟨rest, .inr rfl, h⟩
    · rintro ⟨digits, rfl | heq, hall, hany⟩
      · -- the sign is no digit
        rcases hall '-' List.mem_cons_self with h | h <;> cases h
      · obtain rfl := (List.cons.inj heq).2
        exact ⟨hall, hany⟩
  next hsign =>
    rw [hdigits]
    constructor
    · exact fun h => ⟨t, .inl rfl, h⟩
    · rintro ⟨digits, rfl | heq, hall, hany⟩
      · exact ⟨hall, hany⟩
      · exact absurd heq (hsign digits)

/-- The test for literals. -/
lemma isQuoted_iff (t : Text) : isQuoted t = true ↔ Quoted t := by
  unfold isQuoted
  split
  next c d rest =>
    have hends : (d :: rest).getLast? = some c ↔ ∃ body, d :: rest = body ++ [c] :=
      List.getLast?_eq_some_iff
    simp only [Bool.and_eq_true, Bool.or_eq_true, decide_eq_true_eq, hends]
    constructor
    · rintro ⟨hc, body, hbody⟩
      exact ⟨c, by simpa using hc, body, by rw [hbody]⟩
    · rintro ⟨quote, hquote, body, heq⟩
      obtain ⟨rfl, hbody⟩ := List.cons.inj heq
      exact ⟨by simpa using hquote, body, hbody⟩
  next hshort =>
    simp only [Bool.false_eq_true, false_iff]
    rintro ⟨quote, -, body, rfl⟩
    cases body with
    | nil => exact hshort quote quote [] rfl
    | cons d body => exact hshort quote d (body ++ [quote]) rfl

/-- What is selected is what is found: one case for each rule. -/
lemma helper?_of_selected {k : Knowledge} {left right helper : Text}
    (h : Selected k left right helper) : helper? k left right = some helper := by
  have hnone : Untyped k left right →
      (typedHelper? k left <|> typedHelper? k right) = none := by
    intro huntyped
    rw [(typedHelper?_eq_none_iff k left).mpr fun h => (huntyped h).1,
      (typedHelper?_eq_none_iff k right).mpr fun h => (huntyped h).2]
    rfl
  unfold helper?
  cases h with
  | left hleft =>
    rw [(typedHelper?_eq_some_iff k left helper).mpr hleft]
    rfl
  | right hleft hright =>
    rw [(typedHelper?_eq_none_iff k left).mpr hleft,
      (typedHelper?_eq_some_iff k right helper).mpr hright]
    rfl
  | numbers huntyped hleft hright hnumeric =>
    rw [hnone huntyped, (after?_eq_some_iff _ _ _).mpr hleft, (after?_eq_some_iff _ _ _).mpr hright]
    simp [hnumeric]
  | texts huntyped hleft hright hnumeric =>
    rw [hnone huntyped, (after?_eq_some_iff _ _ _).mpr hleft, (after?_eq_some_iff _ _ _).mpr hright]
    simp [hnumeric]
  | number huntyped hvariables hnumber =>
    rw [hnone huntyped]
    dsimp only
    split
    next a b ha hb =>
      exact absurd ⟨a, b, (after?_eq_some_iff _ _ _).mp ha, (after?_eq_some_iff _ _ _).mp hb⟩
        hvariables
    next => rw [if_pos ((isBareNumber_iff right).mpr hnumber)]
  | literal huntyped hvariables hnumber hquoted =>
    rw [hnone huntyped]
    dsimp only
    split
    next a b ha hb =>
      exact absurd ⟨a, b, (after?_eq_some_iff _ _ _).mp ha, (after?_eq_some_iff _ _ _).mp hb⟩
        hvariables
    next =>
      rw [if_neg (mt (isBareNumber_iff right).mp hnumber),
        if_pos ((isQuoted_iff right).mpr hquoted)]

/-- What is found is selected by one of the rules. -/
lemma selected_of_helper? {k : Knowledge} {left right helper : Text}
    (h : helper? k left right = some helper) : Selected k left right helper := by
  unfold helper? at h
  cases hleft : typedHelper? k left with
  | some found =>
    rw [hleft] at h
    obtain rfl : found = helper := Option.some.inj h
    exact .left ((typedHelper?_eq_some_iff k left found).mp hleft)
  | none =>
    cases hright : typedHelper? k right with
    | some found =>
      rw [hleft, hright] at h
      obtain rfl : found = helper := Option.some.inj h
      exact .right ((typedHelper?_eq_none_iff k left).mp hleft)
        ((typedHelper?_eq_some_iff k right found).mp hright)
    | none =>
      have huntyped : Untyped k left right := fun h =>
        ⟨(typedHelper?_eq_none_iff k left).mp hleft h,
          (typedHelper?_eq_none_iff k right).mp hright h⟩
      rw [hleft, hright] at h
      dsimp only [Option.orElse_eq_orElse, Option.orElse] at h
      split at h
      next a b ha hb =>
        rw [after?_eq_some_iff] at ha hb
        obtain rfl := Option.some.inj h
        split
        next hnumeric => exact .numbers huntyped ha hb (by simpa using hnumeric)
        next hnumeric => exact .texts huntyped ha hb (by simpa using hnumeric)
      next hvariables =>
        have hnot : ¬ ∃ a b : Text, left = "this." ++ a ∧ right = "this." ++ b := by
          rintro ⟨a, b, ha, hb⟩
          exact hvariables a b ((after?_eq_some_iff _ _ _).mpr ha)
            ((after?_eq_some_iff _ _ _).mpr hb)
        split at h
        next hnumber =>
          obtain rfl := Option.some.inj h
          exact .number huntyped hnot ((isBareNumber_iff right).mp hnumber)
        next hnumber =>
          split at h
          next hquoted =>
            obtain rfl := Option.some.inj h
            exact .literal huntyped hnot (mt (isBareNumber_iff right).mpr hnumber)
              ((isQuoted_iff right).mp hquoted)
          next => cases h

/-- **The helper for two operands** is the one that the rules select. -/
lemma helper?_eq_some_iff (k : Knowledge) (left right helper : Text) :
    helper? k left right = some helper ↔ Selected k left right helper :=
  ⟨selected_of_helper?, helper?_of_selected⟩

/-- A selected helper is one of the three. -/
lemma helper?_mem {k : Knowledge} {left right helper : Text}
    (h : helper? k left right = some helper) :
    helper ∈ [k.helpers.string, k.helpers.numeric, k.helpers.date] := by
  have htyped : ∀ {operand : Text}, Typed k operand helper →
      helper ∈ [k.helpers.string, k.helpers.numeric, k.helpers.date] := by
    rintro operand ⟨type, -, hmem⟩
    simp only [List.mem_cons, Prod.mk.injEq, List.not_mem_nil, or_false] at hmem
    rcases hmem with ⟨-, rfl⟩ | ⟨-, rfl⟩ | ⟨-, rfl⟩ | ⟨-, rfl⟩ <;> simp
  cases selected_of_helper? h with
  | left hleft => exact htyped hleft
  | right _ hright => exact htyped hright
  | numbers | texts | number | literal => simp

/-! ### What a comparison becomes -/

/-- A comparison. -/
structure Compared where
  /-- The left operand. -/
  left : Text
  /-- The operator. -/
  op : Operator
  /-- The right operand. -/
  right : Text
  deriving DecidableEq, Repr

/-- The operators, with the mark of a negated call and the function that is called. -/
def functions : List (Operator × Text × Text) :=
  [(.eq, "", "eq"), (.ne, "!", "eq"), (.gt, "", "gt"), (.ge, "", "ge"), (.lt, "", "lt"),
    (.le, "", "le")]

/-- A comparison that asks whether a text is empty. -/
def Compared.AsksEmpty (c : Compared) : Prop :=
  c.right = "\"\"" ∧ (c.op = .eq ∨ c.op = .ne)

instance (c : Compared) : Decidable c.AsksEmpty :=
  inferInstanceAs (Decidable (c.right = "\"\"" ∧ (c.op = .eq ∨ c.op = .ne)))

/-- The rules for the call that a comparison becomes, if it becomes one. -/
inductive Becomes (k : Knowledge) (c : Compared) : Option Text → Prop
  /-- The question whether the left operand is empty. -/
  | empty {mark function : Text} (hempty : c.AsksEmpty)
      (hmark : (c.op, mark, function) ∈ functions) :
      Becomes k c (some (mark ++ k.helpers.string ++ ".isEmpty(" ++ c.left ++ ")"))
  /-- A call of the selected helper. -/
  | call {helper mark function : Text} (hempty : ¬ c.AsksEmpty)
      (hhelper : Selected k c.left c.right helper) (hmark : (c.op, mark, function) ∈ functions) :
      Becomes k c
        (some (mark ++ helper ++ "." ++ function ++ "(" ++ c.left ++ ", " ++ c.right ++ ")"))
  /-- No call without a helper. -/
  | kept (hempty : ¬ c.AsksEmpty) (hhelper : ∀ helper, ¬ Selected k c.left c.right helper) :
      Becomes k c none

/-- The call for a comparison. -/
def Compared.call? (k : Knowledge) (c : Compared) : Option Text :=
  if c.AsksEmpty then
    some (c.op.negation ++ k.helpers.string ++ ".isEmpty(" ++ c.left ++ ")")
  else
    (helper? k c.left c.right).map fun helper =>
      c.op.negation ++ helper ++ "." ++ c.op.function ++ "(" ++ c.left ++ ", " ++ c.right ++ ")"

/-- The table of functions is the one that calls are made from. -/
lemma mem_functions_iff (op : Operator) (mark function : Text) :
    (op, mark, function) ∈ functions ↔ mark = op.negation ∧ function = op.function := by
  cases op <;> simp [functions, Operator.negation, Operator.function]

/-- The call for a comparison is the one by the rules. -/
lemma becomes_iff (k : Knowledge) (c : Compared) (call : Option Text) :
    Becomes k c call ↔ call = c.call? k := by
  have hmark : (c.op, c.op.negation, c.op.function) ∈ functions :=
    (mem_functions_iff _ _ _).mpr ⟨rfl, rfl⟩
  constructor
  · intro h
    cases h with
    | empty hempty hmark =>
      obtain ⟨rfl, -⟩ := (mem_functions_iff _ _ _).mp hmark
      rw [Compared.call?, if_pos hempty]
    | call hempty hhelper hmark =>
      obtain ⟨rfl, rfl⟩ := (mem_functions_iff _ _ _).mp hmark
      rw [Compared.call?, if_neg hempty, (helper?_eq_some_iff _ _ _ _).mpr hhelper]
      rfl
    | kept hempty hhelper =>
      have hnone : helper? k c.left c.right = none :=
        Option.eq_none_iff_forall_ne_some.mpr fun helper h =>
          hhelper helper ((helper?_eq_some_iff _ _ _ _).mp h)
      rw [Compared.call?, if_neg hempty, hnone]
      rfl
  · rintro rfl
    rw [Compared.call?]
    split
    next hempty => exact .empty hempty hmark
    next hempty =>
      cases hfound : helper? k c.left c.right with
      | none =>
        refine .kept hempty fun helper hhelper => ?_
        rw [(helper?_eq_some_iff _ _ _ _).mpr hhelper] at hfound
        cases hfound
      | some helper => exact .call hempty ((helper?_eq_some_iff _ _ _ _).mp hfound) hmark

/-- The call for a text is the call for the comparison in it, if both of its operands are there. -/
lemma call?_eq_bind (k : Knowledge) (t : Text) :
    call? k t = (operator? t).bind fun (left, op, right) =>
      if trim left = [] ∨ trim right = [] then none
      else (⟨trim left, op, trim right⟩ : Compared).call? k := by
  rw [call?, Option.bind_eq_bind]
  congr 1
  funext ⟨left, op, right⟩
  by_cases hnil : trim left = [] ∨ trim right = []
  · simp only [if_pos hnil]
  · simp only [if_neg hnil, Compared.call?]
    by_cases hempty : (⟨trim left, op, trim right⟩ : Compared).AsksEmpty
    · exact (if_pos hempty).trans (if_pos hempty).symm
    · refine (if_neg hempty).trans (Eq.trans ?_ (if_neg hempty).symm)
      cases helper? k (trim left) (trim right) <;> rfl

end RuleSheet.Guard
