import RuleSheet.Guard.Call
import RuleSheet.Proofs.Guard.Cursor
import RuleSheet.Proofs.Text.Cuts
import RuleSheet.Proofs.Text.Trim

/-!
# What processing does to a unit

Processing takes a unit apart into a head, a condition and a rest, and the condition into operands.
This module says what becomes of the parts, so that a statement about units comes down to one about
operands.

## Main results

* `RuleSheet.Guard.opened?_eq_some_iff` — the head of a unit.
* `RuleSheet.Guard.process_of_condition` — a unit with a condition.
* `RuleSheet.Guard.replaceComparisons_of_splitTop` — a condition with its operands.
* `RuleSheet.Guard.replaceOperand_surround`, `replaceOperand_blank` — an operand.
-/

set_option autoImplicit false

namespace RuleSheet

open Text

namespace Guard

/-! ### Units -/

/-- The head of a unit is the word, blanks and the bracket. -/
lemma opened?_eq_some_iff (code head body : Text) :
    opened? code = some (head, body) ↔
      ∃ blanks : Text, (∀ c ∈ blanks, isBlank c = true) ∧ head = "if" ++ blanks ++ "(" ∧
        code = head ++ body := by
  have hparen : isBlank '(' = false := by decide
  constructor
  · intro h
    unfold opened? at h
    split at h
    next => cases h
    next rest hafter =>
      rw [after?_eq_some_iff] at hafter
      split at h
      next body' htrim =>
        obtain ⟨rfl, rfl⟩ := Prod.mk.inj (Option.some.inj h)
        refine ⟨rest.takeWhile isBlank, fun c hc => List.mem_takeWhile_imp hc, rfl, ?_⟩
        have hrest : rest.takeWhile isBlank ++ '(' :: body' = rest := by
          rw [← htrim]
          exact List.takeWhile_append_dropWhile
        calc code = "if" ++ rest := hafter
          _ = "if" ++ (rest.takeWhile isBlank ++ '(' :: body') := by rw [hrest]
          _ = "if" ++ rest.takeWhile isBlank ++ "(" ++ body' := by simp
      next => cases h
  · rintro ⟨blanks, hblanks, rfl, rfl⟩
    have hafter : after? "if" ("if" ++ blanks ++ "(" ++ body) = some (blanks ++ '(' :: body) := by
      rw [after?_eq_some_iff]
      simp
    have htrim : trimStart (blanks ++ '(' :: body) = '(' :: body := by
      rw [trimStart, trimStartBy, List.dropWhile_append_of_pos hblanks,
        List.dropWhile_cons_of_neg (by simp [hparen])]
    have htake : (blanks ++ '(' :: body).takeWhile isBlank = blanks := by
      rw [List.takeWhile_append_of_pos hblanks, List.takeWhile_cons_of_neg (by simp [hparen]),
        List.append_nil]
    simp only [opened?, hafter, htrim, htake]

/-- A unit with a condition that has no error markers. -/
lemma process_of_condition (k : Knowledge) {code head body condition rest : Text}
    (hopen : opened? code = some (head, body)) (hclose : closing? body = some (condition, rest))
    (hmarkers : markers condition = []) :
    process k code = ⟨head ++ (replaceComparisons k condition).1 ++ ")" ++ rest,
      (replaceComparisons k condition).2⟩ := by
  rw [process, hopen]
  dsimp only
  rw [hclose]
  dsimp only
  rw [hmarkers]

/-- A condition with the operands that a split finds in it. -/
lemma replaceComparisons_of_splitTop (k : Knowledge) {condition first : Text}
    {more : List (Text × Text)} (h : splitTop condition = (first, more)) :
    replaceComparisons k condition =
      (joined (replaceOperand k first).1 (more.map fun p => (p.1, (replaceOperand k p.2).1)),
        ((replaceOperand k first).2 :: more.map fun p => (replaceOperand k p.2).2).count true) := by
  rw [replaceComparisons, h]
  simp only [joined, List.flatMap_map, List.map_map]
  rfl

/-! ### Operands -/

/-- The blanks around an operand stay. -/
lemma replaceOperand_surround (k : Knowledge) {s body u : Text} (hs : ∀ c ∈ s, isBlank c = true)
    (hbody : Bare isBlank body) (hu : ∀ c ∈ u, isBlank c = true) :
    replaceOperand k (s ++ body ++ u) =
      (s ++ (call? k body).getD body ++ u, (call? k body).isSome) := by
  have htrim : trim (s ++ body ++ u) = body := trimBy_surround hs hbody hu
  have hlead : (s ++ body ++ u).takeWhile isBlank = s := by
    rw [List.append_assoc]
    exact takeWhile_append_bare hs hbody u
  have htrail : trailingBlanks (s ++ body ++ u) = u := reverse_takeWhile_surround s hbody hu
  rw [replaceOperand, htrim, hlead, htrail]

/-- There is no comparison in an empty text. -/
lemma call?_nil (k : Knowledge) : call? k [] = none := rfl

/-- An operand of blanks is written twice: its blanks are those before an empty comparison, and
those after it. -/
lemma replaceOperand_blank (k : Knowledge) {t : Text} (ht : ∀ c ∈ t, isBlank c = true) :
    replaceOperand k t = (t ++ t, false) := by
  have htrim : trim t = [] := trimBy_of_forall ht
  have hlead : t.takeWhile isBlank = t := List.takeWhile_eq_self_iff.mpr ht
  have htrail : trailingBlanks t = t := by
    have hrev : t.reverse.takeWhile isBlank = t.reverse :=
      List.takeWhile_eq_self_iff.mpr fun c hc => ht c (List.mem_reverse.mp hc)
    rw [trailingBlanks, hrev, List.reverse_reverse]
  rw [replaceOperand, htrim, hlead, htrail, call?_nil]
  simp

end Guard

end RuleSheet
