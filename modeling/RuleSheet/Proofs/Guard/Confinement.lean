import Mathlib.Data.List.Forall2
import RuleSheet.Proofs.Guard.Flagging
import RuleSheet.Proofs.Guard.Idempotence

/-!
# What processing may change

Processing is meant to touch nothing but the comparisons of a condition.  A unit stays as it is, or
it is put aside as a whole, or only the text between the brackets of its condition changes; and
there only operands change, each into a call for its comparison.  This holds for every condition,
also for one that no compiler would take: what is left of it between the logical operators is split
in the same way afterwards.  There is one exception: an operand of blanks is written twice, and not
counted.

## Main definitions

* `RuleSheet.Guard.Rewritten` — what may become of an operand.
* `RuleSheet.Guard.Reworded`, `RewordedUpToBlanks` — what may become of a condition.
* `RuleSheet.Guard.Treated` — what may become of a unit.

## Main results

* `RuleSheet.Guard.ne_of_call?` — a call differs from its comparison.
* `RuleSheet.Guard.separators_replaceComparisons`, `operands_replaceComparisons` — the condition,
  split again.
* `RuleSheet.Guard.reworded_replaceComparisons_iff` — what becomes of a condition.
* `RuleSheet.Guard.process_confined` — what becomes of conditions and units.
-/

set_option autoImplicit false

namespace RuleSheet

/-- Trimming takes away blanks only. -/
lemma Text.count_trim {c : Char} (hc : isBlank c = false) (t : Text) :
    (trim t).count c = t.count c := by
  have hnone : ∀ {s : Text}, (∀ d ∈ s, isBlank d = true) → s.count c = 0 := by
    intro s hs
    refine List.count_eq_zero.mpr fun hmem => ?_
    rw [hs c hmem] at hc
    cases hc
  rcases forall_or_surround isBlank t with hall | ⟨s, body, u, rfl, hs, hbody, hu⟩
  · rw [hnone hall, trim, trimBy_of_forall hall, List.count_nil]
  · rw [trim, trimBy_surround hs hbody hu, List.count_append, List.count_append, hnone hs, hnone hu]
    omega

namespace Guard

open Text Cursor

/-! ### Operands -/

/-- What may become of an operand. -/
inductive Rewritten (k : Knowledge) (operand : Text) : Text → Prop
  /-- It stays as it is. -/
  | same : Rewritten k operand operand
  /-- Between its blanks, the comparison becomes the call for the texts on the sides of its
  operator. -/
  | call {front body back left right call : Text} {op : Operator}
      (hoperand : operand = front ++ body ++ back) (hfront : ∀ c ∈ front, isBlank c = true)
      (hbody : Bare isBlank body) (hback : ∀ c ∈ back, isBlank c = true)
      (hsides : operator? body = some (left, op, right))
      (hcall : Becomes k ⟨trim left, op, trim right⟩ (some call)) :
      Rewritten k operand (front ++ call ++ back)

section Operand

variable {k : Knowledge}

/-- The call for a text is one for the texts on the sides of its operator. -/
lemma exists_of_call? {body call : Text} (h : call? k body = some call) :
    ∃ left op right, operator? body = some (left, op, right) ∧
      Becomes k ⟨trim left, op, trim right⟩ (some call) := by
  rw [call?_eq_bind, Option.bind_eq_some_iff] at h
  obtain ⟨⟨left, op, right⟩, hsides, hcall⟩ := h
  dsimp only at hcall
  split at hcall
  next => cases hcall
  next => exact ⟨left, op, right, hsides, (becomes_iff _ _ _).mpr hcall.symm⟩

/-- **A call differs from its comparison:** it has one more closing bracket, at least. -/
lemma ne_of_call? {body call : Text} (h : call? k body = some call) : call ≠ body := by
  obtain ⟨left, op, right, hsides, hcall⟩ := exists_of_call? h
  obtain ⟨rfl, -⟩ := of_operatorFrom?_eq_some (s := top) hsides
  have hsign : op.sign.count ')' = 0 := by cases op <;> decide
  have hleft : (trim left).count ')' = left.count ')' := count_trim (by decide) left
  have hright : (trim right).count ')' = right.count ')' := count_trim (by decide) right
  intro heq
  have hcount := congrArg (List.count ')') heq
  cases hcall with
  | empty hempty hmark =>
    have hquotes : (trim right).count ')' = 0 := by
      rw [show trim right = ['"', '"'] from hempty.1]
      decide
    simp only [List.count_append, show (")" : Text).count ')' = 1 from rfl] at hcount
    omega
  | call hempty hhelper hmark =>
    simp only [List.count_append, show (")" : Text).count ')' = 1 from rfl] at hcount
    omega

/-- An operand of blanks is written twice and not counted.  Any other one is rewritten, and counted
if that changes it. -/
lemma replaceOperand_outcome (k : Knowledge) (operand : Text) :
    IsBlank operand ∧ replaceOperand k operand = (operand ++ operand, false) ∨
      ¬ IsBlank operand ∧ Rewritten k operand (replaceOperand k operand).1 ∧
        ((replaceOperand k operand).1 ≠ operand ↔ (replaceOperand k operand).2 = true) := by
  rcases forall_or_surround isBlank operand with
    hall | ⟨front, body, back, rfl, hfront, hbody, hback⟩
  · have hreplace := replaceOperand_blank k hall
    by_cases hnil : operand = []
    · subst hnil
      exact .inr ⟨fun h => h.1 rfl, by rw [hreplace]; exact .same, by simp [hreplace]⟩
    · exact .inl ⟨⟨hnil, hall⟩, hreplace⟩
  · have hnot : ¬ IsBlank (front ++ body ++ back) := by
      obtain ⟨c, rest, rfl, hc⟩ := hbody.head
      intro hblank
      rw [hblank.2 c (by simp)] at hc
      cases hc
    refine .inr ⟨hnot, ?_⟩
    rw [replaceOperand_surround k hfront hbody hback]
    cases hcall : call? k body with
    | none => exact ⟨.same, by simp⟩
    | some call =>
      obtain ⟨left, op, right, hsides, hbecomes⟩ := exists_of_call? hcall
      refine ⟨.call rfl hfront hbody hback hsides hbecomes, ?_⟩
      simpa using ne_of_call? hcall

/-- To write blanks twice is not to rewrite them. -/
lemma not_rewritten_blank {operand : Text} (h : IsBlank operand) :
    ¬ Rewritten k operand (operand ++ operand) := by
  intro hrewritten
  generalize hdouble : operand ++ operand = text at hrewritten
  cases hrewritten with
  | same => exact h.1 (List.append_right_eq_self.mp hdouble)
  | call hoperand hfront hbody hback hsides hcall =>
    obtain ⟨c, rest, rfl, hc⟩ := hbody.head
    rw [h.2 c (by simp [hoperand])] at hc
    cases hc

end Operand

/-! ### Conditions -/

/-- The logical operators of a condition. -/
def separators (condition : Text) : List Text := (splitTop condition).2.map Prod.fst

/-- How many operands changed. -/
def changes (before after : List Text) : Nat :=
  (before.zip after).countP fun pair => pair.1 ≠ pair.2

/-- What may become of a condition: the logical operators stay in their order, each operand is
rewritten, and the count is that of the operands that changed. -/
structure Reworded (k : Knowledge) (before after : Text) (count : Nat) : Prop where
  /-- The logical operators. -/
  separators_eq : separators after = separators before
  /-- The operands, one by one. -/
  operands_rel : List.Forall₂ (Rewritten k) (operands before) (operands after)
  /-- The count. -/
  count_eq : count = changes (operands before) (operands after)

/-- The same, but operands of blanks are written twice and not counted. -/
structure RewordedUpToBlanks (k : Knowledge) (before after : Text) (count : Nat) : Prop where
  /-- The logical operators. -/
  separators_eq : separators after = separators before
  /-- The operands, one by one. -/
  operands_rel : List.Forall₂
    (fun old new => ¬ IsBlank old ∧ Rewritten k old new ∨ IsBlank old ∧ new = old ++ old)
    (operands before) (operands after)
  /-- The count. -/
  count_eq : count + (operands before).countP (fun operand => IsBlank operand) =
    changes (operands before) (operands after)

section Condition

variable {k : Knowledge}

/-- The condition with its comparisons replaced, split again. -/
lemma splitTop_replaceComparisons (hquiet : Quiet k.helpers) (condition : Text) :
    splitTop (replaceComparisons k condition).1 =
      ((replaceOperand k (splitTop condition).1).1, replacedMore k (splitTop condition).2) := by
  have hsplit : splitTop condition = ((splitTop condition).1, (splitTop condition).2) := rfl
  obtain ⟨hpieced, -⟩ := (splitTop_iff _ _ _).mp hsplit
  rw [replaceComparisons_of_splitTop k hsplit]
  exact (splitTop_iff _ _ _).mpr ⟨pieced_replaced hquiet hpieced, rfl⟩

/-- The logical operators stay. -/
lemma separators_replaceComparisons (hquiet : Quiet k.helpers) (condition : Text) :
    separators (replaceComparisons k condition).1 = separators condition := by
  rw [separators, splitTop_replaceComparisons hquiet, separators, replacedMore, List.map_map]
  rfl

/-- The operands are replaced one by one. -/
lemma operands_replaceComparisons (hquiet : Quiet k.helpers) (condition : Text) :
    operands (replaceComparisons k condition).1 =
      (operands condition).map fun operand => (replaceOperand k operand).1 := by
  rw [operands, splitTop_replaceComparisons hquiet, operands, operandList, operandList,
    replacedMore, List.map_map, List.map_cons, List.map_map]
  rfl

/-- What is counted. -/
lemma count_replaceComparisons (k : Knowledge) (condition : Text) :
    (replaceComparisons k condition).2 =
      (operands condition).countP fun operand => (replaceOperand k operand).2 := by
  have hsplit : splitTop condition = ((splitTop condition).1, (splitTop condition).2) := rfl
  have hflags : (replaceComparisons k condition).2 =
      ((operands condition).map fun operand => (replaceOperand k operand).2).count true := by
    rw [replaceComparisons_of_splitTop k hsplit, operands, operandList, List.map_cons, List.map_map]
    rfl
  rw [hflags, List.count, List.countP_map]
  exact List.countP_congr fun operand _ => by simp

/-- Each operand that changed is counted, or it is of blanks. -/
lemma changes_replaced (k : Knowledge) (list : List Text) :
    (list.countP fun operand => (replaceOperand k operand).2) +
        list.countP (fun operand => IsBlank operand) =
      changes list (list.map fun operand => (replaceOperand k operand).1) := by
  induction list with
  | nil => rfl
  | cons operand list ih =>
    have hstep : changes (operand :: list)
        ((operand :: list).map fun operand => (replaceOperand k operand).1) =
        changes list (list.map fun operand => (replaceOperand k operand).1) +
          if operand ≠ (replaceOperand k operand).1 then 1 else 0 := by
      simp [changes, List.countP_cons]
    rw [hstep, ← ih, List.countP_cons, List.countP_cons]
    rcases replaceOperand_outcome k operand with ⟨hblank, hreplace⟩ | ⟨hnot, -, hcounted⟩
    · have hne : operand ≠ operand ++ operand :=
        fun h => hblank.1 (List.append_right_eq_self.mp h.symm)
      simp only [hreplace, hblank, hne, ne_eq, not_false_eq_true, decide_true, if_true,
        Bool.false_eq_true, if_false]
      omega
    · simp only [hnot, ne_comm.trans hcounted, decide_false, Bool.false_eq_true, if_false]
      omega

/-- **What becomes of a condition.** -/
lemma rewordedUpToBlanks_replaceComparisons (hquiet : Quiet k.helpers) (condition : Text) :
    RewordedUpToBlanks k condition (replaceComparisons k condition).1
      (replaceComparisons k condition).2 where
  separators_eq := separators_replaceComparisons hquiet condition
  operands_rel := by
    rw [operands_replaceComparisons hquiet, List.forall₂_map_right_iff, List.forall₂_same]
    intro operand _
    rcases replaceOperand_outcome k operand with ⟨hblank, hreplace⟩ | ⟨hnot, hrewritten, -⟩
    · exact .inr ⟨hblank, by rw [hreplace]⟩
    · exact .inl ⟨hnot, hrewritten⟩
  count_eq := by
    rw [operands_replaceComparisons hquiet, count_replaceComparisons, changes_replaced]

/-- Without operands of blanks there is no exception. -/
lemma RewordedUpToBlanks.reworded {before after : Text} {count : Nat}
    (h : RewordedUpToBlanks k before after count)
    (hblank : ∀ operand ∈ operands before, ¬ IsBlank operand) : Reworded k before after count where
  separators_eq := h.separators_eq
  operands_rel := by
    refine List.Forall₂.imp ?_ ((List.forall₂_and_left _ _).mpr ⟨hblank, h.operands_rel⟩)
    rintro old new ⟨hnot, ⟨-, hrewritten⟩ | ⟨hold, -⟩⟩
    · exact hrewritten
    · exact absurd hold hnot
  count_eq := by
    have hnone : (operands before).countP (fun operand => IsBlank operand) = 0 :=
      List.countP_eq_zero.mpr fun operand hmem => by simpa using hblank operand hmem
    rw [← h.count_eq, hnone, Nat.add_zero]

/-- With an operand of blanks a condition changes, and not in the way it may. -/
lemma not_reworded_of_blank (hquiet : Quiet k.helpers) {condition operand : Text}
    (hmem : operand ∈ operands condition) (hblank : IsBlank operand) :
    (replaceComparisons k condition).1 ≠ condition ∧
      ¬ Reworded k condition (replaceComparisons k condition).1
        (replaceComparisons k condition).2 := by
  have hdouble : (replaceOperand k operand).1 = operand ++ operand := by
    rw [replaceOperand_blank k hblank.2]
  constructor
  · intro hsame
    have hmap := operands_replaceComparisons hquiet condition
    rw [hsame] at hmap
    have hkept : (replaceOperand k operand).1 = operand :=
      List.map_inj_left.mp (hmap.symm.trans (List.map_id _).symm) operand hmem
    rw [hdouble] at hkept
    exact hblank.1 (List.append_right_eq_self.mp hkept)
  · intro hreworded
    have hrel := hreworded.operands_rel
    rw [operands_replaceComparisons hquiet, List.forall₂_map_right_iff, List.forall₂_same] at hrel
    have hrewritten := hrel operand hmem
    rw [hdouble] at hrewritten
    exact not_rewritten_blank hblank hrewritten

/-- A condition is reworded in the way it may exactly if it has no operands of blanks. -/
lemma reworded_replaceComparisons_iff (hquiet : Quiet k.helpers) (condition : Text) :
    Reworded k condition (replaceComparisons k condition).1 (replaceComparisons k condition).2 ↔
      ∀ operand ∈ operands condition, ¬ IsBlank operand := by
  refine ⟨fun h operand hmem hblank => ?_, fun hblank => ?_⟩
  · exact (not_reworded_of_blank hquiet hmem hblank).2 h
  · exact (rewordedUpToBlanks_replaceComparisons hquiet condition).reworded hblank

end Condition

/-! ### Units -/

/-- What may become of a unit, given what may become of a condition. -/
inductive Treated (rel : Text → Text → Nat → Prop) (code : Text) : Processed → Prop
  /-- It stays as it is. -/
  | kept : Treated rel code ⟨code, 0⟩
  /-- It is put below the line that asks for a review. -/
  | review : Treated rel code ⟨reviewMarker ++ "\n" ++ code, 0⟩
  /-- All its lines are put in comments, below other comments. -/
  | commented {text : Text} (hcomments : ∀ line ∈ lines text, ("//" : Text) <+: line)
      (hlast : (lines code).map (fun line => ("//" : Text) ++ line) <:+ text.splitOn '\n') :
      Treated rel code ⟨text, 0⟩
  /-- The text between the brackets of its condition changes. -/
  | reworded {head body condition after rest : Text} {count : Nat}
      (hopen : opened? code = some (head, body)) (hclose : closing? body = some (condition, rest))
      (hcode : code = head ++ condition ++ ")" ++ rest) (hrel : rel condition after count) :
      Treated rel code ⟨head ++ after ++ ")" ++ rest, count⟩

section Unit

variable {k : Knowledge} {rel : Text → Text → Nat → Prop} {code : Text}

/-- The lines of code that is commented out come last. -/
lemma suffix_commentOut (hne : lines code ≠ []) {marked : List Text}
    (h : ∀ body ∈ marked, '\n' ∉ body) :
    (lines code).map (fun line => ("//" : Text) ++ line) <:+
      (commentOut code marked).splitOn '\n' := by
  have hlines : ∀ line ∈ (lines code).map (fun line => ("//" : Text) ++ line), '\n' ∉ line := by
    simp only [List.mem_map]
    rintro _ ⟨line, hline, rfl⟩
    exact List.not_mem_append (by decide) (newline_not_mem_of_mem_lines hline)
  unfold commentOut
  induction marked with
  | nil => exact ⟨[], (List.splitOn_intercalate '\n' hlines (by simpa using hne)).symm⟩
  | cons body more ih =>
    have hline : todoLine body = ("//TODO: " ++ body) ++ ['\n'] := rfl
    rw [List.flatMap_cons, hline, List.append_assoc, List.append_assoc _ ['\n'],
      List.singleton_append, List.splitOn_append_cons_self]
    exact (ih fun text htext => h text (List.mem_cons_of_mem body htext)).trans
      (List.suffix_append _ _)

/-- The parts of a unit with a condition. -/
lemma eq_of_opened? {head body condition rest : Text} (hopen : opened? code = some (head, body))
    (hclose : closing? body = some (condition, rest)) :
    code = head ++ condition ++ ")" ++ rest ∧ ∃ tail, head = 'i' :: 'f' :: tail := by
  obtain ⟨blanks, -, rfl, hcode⟩ := (opened?_eq_some_iff _ _ _).mp hopen
  exact ⟨by rw [hcode, eq_of_closingFrom? hclose]; simp, _, rfl⟩

/-- Code that starts with the word of a condition has a line that does. -/
lemma exists_line_if (t : Text) : ∃ line ∈ lines ('i' :: 'f' :: t), ['i', 'f'] <+: line := by
  have hline : '\n' ∉ (['i', 'f'] : Text) := by decide
  exact exists_mem_lines hline (by decide) (by decide) t

/-- What becomes of a unit, if it is known what becomes of its condition. -/
lemma treated_process (h : ∀ condition, condition? code = some condition → markers condition = [] →
      rel condition (replaceComparisons k condition).1 (replaceComparisons k condition).2) :
    Treated rel code (process k code) := by
  cases hopen : opened? code with
  | none =>
    rw [show process k code = ⟨code, 0⟩ by rw [process, hopen]]
    exact .kept
  | some found =>
    obtain ⟨head, body⟩ := found
    cases hclose : closing? body with
    | none =>
      rw [show process k code = ⟨reviewMarker ++ "\n" ++ code, 0⟩ by
        simp only [process, hopen, hclose]]
      exact .review
    | some found =>
      obtain ⟨condition, rest⟩ := found
      obtain ⟨hcode, tail, hhead⟩ := eq_of_opened? hopen hclose
      have hcondition : condition? code = some condition :=
        (condition?_eq_some_iff _ _).mpr ⟨head, body, rest, hopen, hclose⟩
      cases hmarkers : markers condition with
      | nil =>
        rw [process_of_condition k hopen hclose hmarkers]
        exact .reworded hopen hclose hcode (h condition hcondition hmarkers)
      | cons marker more =>
        have hmarked : ∀ text ∈ marker :: more, '\n' ∉ text := by
          rw [← hmarkers]
          exact fun text => newline_not_mem_of_mem_markersFrom
        have hne : lines code ≠ [] := by
          have hwhole : code = 'i' :: 'f' :: (tail ++ condition ++ ")" ++ rest) := by
            simp [hcode, hhead]
          obtain ⟨line, hline, -⟩ := exists_line_if (tail ++ condition ++ ")" ++ rest)
          rw [hwhole]
          exact List.ne_nil_of_mem hline
        rw [show process k code = ⟨commentOut code (marker :: more), 0⟩ by
          simp only [process, hopen, hclose, hmarkers]]
        exact .commented (forall_lines_commentOut code hmarked) (suffix_commentOut hne hmarked)

/-- If its condition changes, a unit is treated in the last of the four ways. -/
lemma rel_of_treated {condition : Text} (hcondition : condition? code = some condition)
    (hmarkers : markers condition = []) (hchanged : (replaceComparisons k condition).1 ≠ condition)
    (h : Treated rel code (process k code)) :
    rel condition (replaceComparisons k condition).1 (replaceComparisons k condition).2 := by
  obtain ⟨head, body, rest, hopen, hclose⟩ := (condition?_eq_some_iff _ _).mp hcondition
  obtain ⟨hcode, tail, hhead⟩ := eq_of_opened? hopen hclose
  have hprocess := process_of_condition k hopen hclose hmarkers
  generalize process k code = processed at h hprocess
  cases h with
  | kept =>
    have hsame := (congrArg Processed.code hprocess).symm.trans hcode
    exact absurd (by simpa using hsame) hchanged
  | review =>
    have hfirst := congrArg (·.code.head?) hprocess
    rw [hhead] at hfirst
    cases hfirst
  | @commented text hcomments _ =>
    have htext :
        text = 'i' :: 'f' :: (tail ++ (replaceComparisons k condition).1 ++ ")" ++ rest) := by
      have hsame := congrArg Processed.code hprocess
      simpa [hhead] using hsame
    obtain ⟨line, hline, back, rfl⟩ :=
      exists_line_if (tail ++ (replaceComparisons k condition).1 ++ ")" ++ rest)
    rw [← htext] at hline
    obtain ⟨back', hback⟩ := hcomments _ hline
    cases hback
  | @reworded _ _ _ after _ _ hopen' hclose' _ hrel =>
    obtain ⟨rfl, rfl⟩ := Prod.mk.inj (Option.some.inj (hopen.symm.trans hopen'))
    obtain ⟨rfl, rfl⟩ := Prod.mk.inj (Option.some.inj (hclose.symm.trans hclose'))
    injection hprocess with hsame hcount
    have hafter : after = (replaceComparisons k condition).1 := by simpa using hsame
    rwa [hafter, hcount] at hrel

/-- An operand of blanks in the condition of a unit is not treated as it should be. -/
lemma not_treated_of_blank (hquiet : Quiet k.helpers) {condition operand : Text}
    (hcondition : condition? code = some condition) (hmarkers : markers condition = [])
    (hmem : operand ∈ operands condition) (hblank : IsBlank operand) :
    ¬ Treated (Reworded k) code (process k code) := by
  obtain ⟨hchanged, hnot⟩ := not_reworded_of_blank hquiet hmem hblank
  exact fun h => hnot (rel_of_treated hcondition hmarkers hchanged h)

end Unit

/-- **What becomes of a condition and of a unit.**  Every condition is reworded, operand by operand,
but operands of blanks are written twice.  A unit stays as it is, or it is put aside as a whole, or
its condition is reworded.  Nothing but comparisons changes exactly if there are no operands of
blanks. -/
theorem process_confined (k : Knowledge) (names : Quiet k.helpers) :
    (∀ condition, RewordedUpToBlanks k condition (replaceComparisons k condition).1
        (replaceComparisons k condition).2 ∧
      (Reworded k condition (replaceComparisons k condition).1 (replaceComparisons k condition).2 ↔
        ∀ operand ∈ operands condition, ¬ IsBlank operand)) ∧
    ∀ code, Treated (RewordedUpToBlanks k) code (process k code) ∧
      (Treated (Reworded k) code (process k code) ↔
        ∀ condition, condition? code = some condition → markers condition = [] →
          ∀ operand ∈ operands condition, ¬ IsBlank operand) := by
  refine ⟨fun condition => ⟨rewordedUpToBlanks_replaceComparisons names condition,
    reworded_replaceComparisons_iff names condition⟩, fun code => ⟨?_, ?_, fun h => ?_⟩⟩
  · exact treated_process fun condition _ _ => rewordedUpToBlanks_replaceComparisons names condition
  · intro h condition hcondition hmarkers operand hmem hblank
    exact not_treated_of_blank names hcondition hmarkers hmem hblank h
  · exact treated_process fun condition hcondition hmarkers =>
      (reworded_replaceComparisons_iff names condition).mpr (h condition hcondition hmarkers)

/-- A unit with a bracket in a comment of its condition, which the split takes for one that is
closed. -/
def commentedUnit : Text := "if(/*)*/ a != 1 && b == \"x\" ) {}"

/-- A unit with a gap in its condition. -/
def gapUnit : Text := "if(a == 1 && ) {}"

/-- The bracket in the comment closes that of a call, and the condition is still split in the same
way. -/
theorem process_confined_commentedUnit :
    Quiet noKnowledge.helpers ∧
      process noKnowledge commentedUnit =
        ⟨"if(!NumUtil.eq(/*)*/ a, 1) && StrUtil.eq(b, \"x\") ) {}", 2⟩ ∧
      Treated (Reworded noKnowledge) commentedUnit (process noKnowledge commentedUnit) := by
  refine ⟨named_default.quiet, by decide +kernel,
    ((process_confined noKnowledge named_default.quiet).2 commentedUnit).2.mpr ?_⟩
  have hcondition : condition? commentedUnit = some "/*)*/ a != 1 && b == \"x\" " := by
    decide +kernel
  intro condition hsome _
  rw [hcondition] at hsome
  obtain rfl := Option.some.inj hsome
  decide +kernel

/-- **The blank in a gap is written twice**, which is neither to keep it nor to make a call of it,
and it is not counted. -/
theorem process_confined_gapUnit :
    Quiet noKnowledge.helpers ∧
      process noKnowledge gapUnit = ⟨"if(NumUtil.eq(a, 1) &&  ) {}", 1⟩ ∧
      ¬ Treated (Reworded noKnowledge) gapUnit (process noKnowledge gapUnit) := by
  have hcondition : condition? gapUnit = some "a == 1 && " := by decide +kernel
  refine ⟨named_default.quiet, by decide +kernel, ?_⟩
  have hmem : [' '] ∈ operands "a == 1 && " := by decide +kernel
  exact not_treated_of_blank named_default.quiet hcondition (by decide +kernel) hmem (by decide)

end Guard

end RuleSheet
