import RuleSheet.Conversion.Basic
import RuleSheet.Proofs.Guard.Replacement
import RuleSheet.Proofs.Segmentation
import RuleSheet.Proofs.Sentence.Outcome

/-!
# Reading the lines of a sheet

What the first pass of a conversion makes of the lines: which marks make a line part of a
condition, and how the lines that were read are numbered.  The numbers ascend, so the assembler
makes one pass over them.

## Main definitions

* `RuleSheet.openingMark`, `RuleSheet.conditionMarks` — the marks at the start of a line that make
  it part of a condition.
* `RuleSheet.SheetLine.Plain` — a line that is no part of a condition.

## Main results

* `RuleSheet.classify_opening` — a line with the opening mark starts a condition.
* `RuleSheet.classify_plain` — a line without marks is a statement, or is not recognised.
* `RuleSheet.Converter.readLines_ascending` — the lines that were read have ascending numbers.
* `RuleSheet.Segmentation.ofLines_eq_along` — the assembler makes one pass.
-/

set_option autoImplicit false

namespace RuleSheet

open Text

/-! ### Marks -/

/-- The mark of the start of a condition. -/
def openingMark : Text := "》【条件】"

/-- The marks that make a line part of a condition. -/
def conditionMarks : List Text := [openingMark, "または、", "かつ、"]

/-- A text that starts with a mark has something after it. -/
lemma Text.exists_after?_iff (mark t : Text) :
    (∃ rest, after? mark t = some rest) ↔ mark <+: t := by
  constructor
  · rintro ⟨rest, h⟩
    exact ⟨rest, ((after?_eq_some_iff mark t rest).mp h).symm⟩
  · rintro ⟨rest, h⟩
    exact ⟨rest, (after?_eq_some_iff mark t rest).mpr h.symm⟩

/-- A line with the opening mark starts a condition, and nothing is looked up. -/
lemma classify_opening {text : Text} (h : openingMark <+: text) :
    ∃ part, ∀ (tree : FileTree) (helpers : Helpers) (l : Lexicon),
      classify tree helpers text l = (.opening part, l) := by
  obtain ⟨rest, hrest⟩ := (exists_after?_iff openingMark text).mpr h
  refine ⟨Sentence.comparison rest, fun tree helpers l => ?_⟩
  have hopening : Sentence.opening? text = some (.opening (Sentence.comparison rest)) := by
    rw [Sentence.opening?]
    exact congrArg _ hrest
  have hfound : ∃ name, recognize text =
      some (name, .opening (Sentence.comparison rest)) := by
    simp [recognize, rules, hopening]
  obtain ⟨name, hname⟩ := hfound
  rw [classify, hname]
  rfl

namespace Sentence

/-- Whether a sentence is part of a condition. -/
def isCondition : Sentence → Bool
  | .opening _ => true
  | .continuation _ _ => true
  | _ => false

/-- The rules behind the first two are not about conditions. -/
lemma not_isCondition_of_apply {rule : Rule} (hmem : rule ∈ rules.drop 2) {line : Text}
    {s : Sentence} (h : rule.apply line = some s) : s.isCondition = false := by
  simp only [rules, List.drop_succ_cons, List.drop_zero, List.mem_cons, List.not_mem_nil,
    or_false] at hmem
  -- each of them gives a sentence of one form, whatever else it asks of the line
  rcases hmem with rfl | rfl | rfl | rfl | rfl | rfl <;>
    grind [blankField?, numberField?, flagBit?, variableValue?, textField?, isCondition,
      Option.map_eq_some_iff, Option.bind_eq_some_iff]

/-- A sentence that is part of a condition was recognised by its mark. -/
lemma marked_of_isCondition {line name : Text} {s : Sentence}
    (h : recognize line = some (name, s)) (hs : s.isCondition = true) :
    ∃ mark ∈ conditionMarks, mark <+: line := by
  obtain ⟨rule, hmem, hrule⟩ := List.exists_of_findSome?_eq_some h
  obtain ⟨s', hs', heq⟩ := Option.map_eq_some_iff.mp hrule
  obtain rfl : s' = s := (Prod.mk.inj heq).2
  rw [← List.take_append_drop 2 rules, List.mem_append] at hmem
  rcases hmem with hmem | hmem
  · simp only [rules, List.take_succ_cons, List.take_zero, List.mem_cons, List.not_mem_nil,
      or_false] at hmem
    rcases hmem with rfl | rfl
    · obtain ⟨rest, hrest, -⟩ := Option.map_eq_some_iff.mp hs'
      exact ⟨openingMark, by simp [conditionMarks], (exists_after?_iff _ _).mp ⟨rest, hrest⟩⟩
    · simp only [continuation?] at hs'
      split at hs'
      next rest hrest =>
        exact ⟨_, by simp [conditionMarks], (exists_after?_iff _ _).mp ⟨rest, hrest⟩⟩
      next =>
        obtain ⟨rest, hrest, -⟩ := Option.map_eq_some_iff.mp hs'
        exact ⟨_, by simp [conditionMarks], (exists_after?_iff _ _).mp ⟨rest, hrest⟩⟩
  · rw [not_isCondition_of_apply hmem hs'] at hs
    cases hs

/-- A sentence that is no part of a condition comes to a statement. -/
lemma clause_statement {s : Sentence} (hs : s.isCondition = false) (tree : FileTree)
    (helpers : Helpers) (line : Text) (l : Lexicon) :
    ∃ st, (s.clause tree helpers line l).1 = .statement st := by
  have houtcome := s.outcome_clause tree helpers line l
  generalize (s.clause tree helpers line l).1 = made at houtcome
  cases houtcome with
  | opening h =>
    rw [h] at hs
    cases hs
  | continuation h =>
    rw [h] at hs
    cases hs
  | made _ => exact ⟨_, rfl⟩
  | unsupported _ => exact ⟨_, rfl⟩
  | missed _ _ _ => exact ⟨_, rfl⟩

end Sentence

/-- **A line without marks** is a statement, or is not recognised. -/
lemma classify_plain {text : Text} (h : ∀ mark ∈ conditionMarks, ¬ mark <+: text)
    (tree : FileTree) (helpers : Helpers) (l : Lexicon) :
    (∃ s, (classify tree helpers text l).1 = .statement s) ∨
      (classify tree helpers text l).1 = .unrecognized text := by
  unfold classify
  rcases hfound : recognize text with _ | ⟨name, s⟩
  · exact Or.inr rfl
  · have hs : s.isCondition = false := by
      by_contra hs
      obtain ⟨mark, hmem, hmark⟩ := Sentence.marked_of_isCondition hfound (by simpa using hs)
      exact h mark hmem hmark
    exact Or.inl (s.clause_statement hs tree helpers text l)

/-! ### Lines that were read -/

/-- A line that is no part of a condition. -/
def SheetLine.Plain (line : SheetLine) : Prop :=
  (∃ s, line.clause = .statement s) ∨ line.clause = .unrecognized line.text

namespace Converter

variable (tree : FileTree) (helpers : Helpers)

/-- A line that was read has its number. -/
lemma number_readLine (number : Nat) (raw : Text) (l : Lexicon) :
    ∀ line ∈ (readLine tree helpers number raw l).1, line.number = number := by
  unfold readLine
  cases Line.normalize raw with
  | none => simp
  | some text => simp

/-- A line without marks is no part of a condition. -/
lemma plain_readLine {raw : Text}
    (h : ∀ text ∈ Line.normalize raw, ∀ mark ∈ conditionMarks, ¬ mark <+: text) (number : Nat)
    (l : Lexicon) : ∀ line ∈ (readLine tree helpers number raw l).1, line.Plain := by
  unfold readLine
  cases hraw : Line.normalize raw with
  | none => simp
  | some text =>
    intro line hline
    obtain rfl := Option.some.inj hline
    exact classify_plain (h text hraw) tree helpers l

/-- The first line of several is read first. -/
lemma readLines_cons (number : Nat) (raw : Text) (rest : List Text) (l : Lexicon) :
    readLines tree helpers number (raw :: rest) l =
      ((readLine tree helpers number raw l).1 ::
          (readLines tree helpers (number + 1) rest (readLine tree helpers number raw l).2).1,
        (readLines tree helpers (number + 1) rest (readLine tree helpers number raw l).2).2) :=
  rfl

/-- Every line that was read comes from one of the raw lines, under its number. -/
lemma exists_of_mem_readLines {lines : List Text} {line : SheetLine} :
    ∀ {number : Nat} {l : Lexicon},
      line ∈ (readLines tree helpers number lines l).1.filterMap id →
        ∃ i raw l', lines[i]? = some raw ∧
          line ∈ (readLine tree helpers (number + i) raw l').1 := by
  induction lines with
  | nil => simp [readLines]
  | cons raw rest ih =>
    intro number l hline
    rw [readLines_cons] at hline
    obtain ⟨read, hmem, hread⟩ := List.mem_filterMap.mp hline
    rcases List.mem_cons.mp hmem with rfl | hmem
    · exact ⟨0, raw, l, rfl, hread⟩
    · obtain ⟨i, raw', l', hraw', hline'⟩ := ih (List.mem_filterMap.mpr ⟨read, hmem, hread⟩)
      exact ⟨i + 1, raw', l', hraw', by rwa [Nat.add_assoc, Nat.add_comm 1 i] at hline'⟩

/-- Lines without marks are no part of a condition. -/
lemma plain_readLines {lines : List Text}
    (h : ∀ raw ∈ lines, ∀ text ∈ Line.normalize raw, ∀ mark ∈ conditionMarks, ¬ mark <+: text)
    (number : Nat) (l : Lexicon) :
    ∀ line ∈ (readLines tree helpers number lines l).1.filterMap id, line.Plain := by
  intro line hline
  obtain ⟨i, raw, l', hraw, hread⟩ := exists_of_mem_readLines tree helpers hline
  exact plain_readLine tree helpers (h raw (List.mem_of_getElem? hraw)) _ l' line hread

/-- The lines that were read have ascending numbers. -/
lemma readLines_ascending (lines : List Text) : ∀ (number : Nat) (l : Lexicon),
    ((readLines tree helpers number lines l).1.filterMap id).Pairwise
      fun a b => a.number < b.number := by
  induction lines with
  | nil => simp [readLines]
  | cons raw rest ih =>
    intro number l
    rw [readLines_cons, List.filterMap_cons]
    have hrest := ih (number + 1) (readLine tree helpers number raw l).2
    rcases hfirst : (readLine tree helpers number raw l).1 with _ | first
    · exact hrest
    · refine List.pairwise_cons.mpr ⟨fun later hlater => ?_, hrest⟩
      obtain ⟨i, raw', l', -, hread⟩ := exists_of_mem_readLines tree helpers hlater
      rw [number_readLine tree helpers number raw l first hfirst,
        number_readLine tree helpers _ raw' l' later hread]
      omega

end Converter

/-! ### One pass of the assembler -/

/-- The assembler makes one pass over lines with ascending numbers. -/
lemma Segmentation.ofLines_eq_along (scope : BlockScope) (policy : Policy)
    (lines : List (Option SheetLine))
    (ascending : (lines.filterMap id).Pairwise fun a b => a.number < b.number) :
    Assembly.ofLines scope policy lines =
      (along scope (piece? scope policy) false lines,
        (along scope (fun enclosed line _ => leftOut? policy enclosed line) false
          lines).length) := by
  have hrun := outcome_foldl scope policy lines .start
  rw [outcome_nil, outcome_start, Prod.mk.injEq] at hrun
  unfold Assembly.ofLines Assembly.finish
  rw [hrun.1, hrun.2, List.mergeSort_of_pairwise, along_eq_byPosition, along_eq_byPosition, pieces,
    leftOut]
  exact (pieces_sorted scope policy lines ascending).imp fun h => decide_eq_true (Nat.le_of_lt h)

end RuleSheet
