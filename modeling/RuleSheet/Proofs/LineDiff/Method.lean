import Mathlib.Data.List.Basic
import RuleSheet.LineDiff

/-!
# Methods of comparing lines

What a comparison relies on: the steps that a method finds take every line of both lists, in order,
and the groups that it shows leave out nothing but lines of both.  The method of fewest changes is
like this.

## Main definitions

* `RuleSheet.LineDiff.Leads` — steps that lead from one list of lines to another.
* `RuleSheet.LineDiff.Method.Sound` — what a comparison relies on.
* `RuleSheet.LineDiff.Retains` — steps of which nothing but lines of both was left out.

## Main results

* `RuleSheet.LineDiff.leads_script` — the shortest steps lead from the one list to the other.
* `RuleSheet.LineDiff.retains_groupsFrom` — grouping leaves out nothing but lines of both.
* `RuleSheet.LineDiff.sound_fewest` — the method of fewest changes is sound.
-/

set_option autoImplicit false

namespace RuleSheet.LineDiff

/-! ### Sound methods -/

/-- The line that a step takes from the expected lines. -/
def Change.expected? : Change → Option Text
  | .same line => some line
  | .removed line => some line
  | .added _ => none

/-- The line that a step takes from the actual lines. -/
def Change.actual? : Change → Option Text
  | .same line => some line
  | .removed _ => none
  | .added line => some line

/-- Whether a step removes or adds a line. -/
def Change.alters (c : Change) : Bool := c.isAdded || c.isRemoved

/-- Steps that take all the expected and all the actual lines, in order. -/
structure Leads (changes : List Change) (expected actual : List Text) : Prop where
  /-- The expected lines are those of both and those removed. -/
  expected_eq : changes.filterMap Change.expected? = expected
  /-- The actual lines are those of both and those added. -/
  actual_eq : changes.filterMap Change.actual? = actual

/-- What a comparison relies on. -/
structure Method.Sound (m : Method) : Prop where
  /-- The steps lead from the expected to the actual lines. -/
  leads (expected actual : List Text) : Leads (m.steps expected actual) expected actual
  /-- Only steps are shown. -/
  shows (n : Nat) (expected actual : List Text) :
    (m.groups n (m.steps expected actual)).flatten ⊆ m.steps expected actual
  /-- All steps that remove or add a line are shown. -/
  keeps (n : Nat) (expected actual : List Text) :
    ((m.groups n (m.steps expected actual)).flatten.filter Change.alters).Perm
      ((m.steps expected actual).filter Change.alters)

namespace Leads

variable {changes : List Change} {expected actual : List Text}

lemma same (h : Leads changes expected actual) (line : Text) :
    Leads (.same line :: changes) (line :: expected) (line :: actual) :=
  ⟨congrArg (line :: ·) h.expected_eq, congrArg (line :: ·) h.actual_eq⟩

lemma removed (h : Leads changes expected actual) (line : Text) :
    Leads (.removed line :: changes) (line :: expected) actual :=
  ⟨congrArg (line :: ·) h.expected_eq, h.actual_eq⟩

lemma added (h : Leads changes expected actual) (line : Text) :
    Leads (.added line :: changes) expected (line :: actual) :=
  ⟨h.expected_eq, congrArg (line :: ·) h.actual_eq⟩

end Leads

/-! ### The shortest steps -/

/-- A row for a list of expected lines: scripts to the actual lines and to their shorter
suffixes. -/
def Fits (expected : List Text) : List Text → Row → Prop
  | [], (s, shorter) => Leads s.changes expected [] ∧ shorter = []
  | b :: actual, (s, shorter) => Leads s.changes expected (b :: actual) ∧
      ∃ next others, shorter = next :: others ∧ Fits expected actual (next, others)

/-- The first script of a row leads to all the actual lines. -/
lemma Fits.leads {expected actual : List Text} {r : Row} (h : Fits expected actual r) :
    Leads r.1.changes expected actual := by
  cases actual with
  | nil => exact h.1
  | cons b actual => exact h.1

/-- The row for no expected lines. -/
lemma fits_emptyRow (actual : List Text) : Fits [] actual (emptyRow actual) := by
  induction actual with
  | nil => exact ⟨⟨rfl, rfl⟩, rfl⟩
  | cons b actual ih => exact ⟨ih.leads.added b, _, _, rfl, ih⟩

/-- **One more expected line.**  Below the first script of a row stands the one that removes the
line, and beside it the one that adds the first of the actual lines. -/
lemma fits_nextRow (a : Text) {expected actual : List Text} {r : Row}
    (h : Fits expected actual r) : Fits (a :: expected) actual (nextRow a actual r) := by
  induction actual generalizing r with
  | nil => exact ⟨h.leads.removed a, rfl⟩
  | cons b actual ih =>
    obtain ⟨below, shorter⟩ := r
    obtain ⟨hbelow, diagonal, others, rfl, hdiagonal⟩ := h
    have hbeside := ih hdiagonal
    refine ⟨?_, _, _, rfl, hbeside⟩
    show Leads (if a = b then _ else _ : Script).changes _ _
    split
    next heq =>
      rw [← heq]
      exact hdiagonal.leads.same a
    next =>
      unfold Script.cheaper
      split
      · exact hbelow.removed a
      · exact hbeside.leads.added b

/-- **The shortest steps** lead from the expected to the actual lines. -/
lemma leads_script (expected actual : List Text) :
    Leads (script expected actual) expected actual := by
  have hrow : Fits expected actual (row actual expected) := by
    induction expected with
    | nil => exact fits_emptyRow actual
    | cons a expected ih => exact fits_nextRow a ih
  exact hrow.leads

/-! ### Grouping -/

/-- Steps of which nothing but lines of both was left out. -/
structure Retains (shown changes : List Change) : Prop where
  /-- What is left stands in the same order. -/
  sublist : shown.Sublist changes
  /-- Whatever removes or adds a line is left. -/
  filter_eq : shown.filter Change.alters = changes.filter Change.alters

namespace Retains

variable {shown shown' changes changes' : List Change}

lemma refl (changes : List Change) : Retains changes changes := ⟨List.Sublist.refl _, rfl⟩

lemma trans (h : Retains shown shown') (h' : Retains shown' changes) : Retains shown changes :=
  ⟨h.sublist.trans h'.sublist, h.filter_eq.trans h'.filter_eq⟩

lemma append (h : Retains shown changes) (h' : Retains shown' changes') :
    Retains (shown ++ shown') (changes ++ changes') :=
  ⟨h.sublist.append h'.sublist, by rw [List.filter_append, List.filter_append, h.filter_eq,
    h'.filter_eq]⟩

/-- Any lines of both may be left out. -/
lemma map_same {lines lines' : List Text} (h : lines'.Sublist lines) :
    Retains (lines'.map .same) (lines.map .same) := by
  have hnone : ∀ lines : List Text, (lines.map Change.same).filter Change.alters = [] := by
    intro lines
    refine List.filter_eq_nil_iff.mpr fun c hc => ?_
    obtain ⟨line, -, rfl⟩ := List.mem_map.mp hc
    simp [Change.alters, Change.isAdded, Change.isRemoved]
  exact ⟨h.map _, by rw [hnone, hnone]⟩

end Retains

/-- The steps of runs. -/
def stepsOf (runs : List Run) : List Change := runs.flatMap Run.changes

lemma stepsOf_cons (run : Run) (runs : List Run) :
    stepsOf (run :: runs) = run.changes ++ stepsOf runs := rfl

/-- One more step in front of runs. -/
lemma perm_stepsOf_consRun (c : Change) (runs : List Run) :
    (stepsOf (consRun c runs)).Perm (c :: stepsOf runs) := by
  rcases runs with _ | ⟨lines | ⟨removed, added⟩, runs⟩
  · cases c <;> exact .refl _
  · cases c <;> exact .refl _
  · cases c with
    | same line => exact .refl _
    | removed line => exact .refl _
    | added line =>
      -- the line comes behind those that the run removes
      have hmiddle : (removed.map Change.removed ++ (.added line :: added.map Change.added)).Perm
          (.added line :: (removed.map Change.removed ++ added.map Change.added)) :=
        List.perm_middle
      exact hmiddle.append_right (stepsOf runs)

/-- Runs hold the steps that they were made of. -/
lemma perm_stepsOf_runs (changes : List Change) : (stepsOf (runs changes)).Perm changes := by
  induction changes with
  | nil => exact .refl _
  | cons c changes ih => exact (perm_stepsOf_consRun c (runs changes)).trans (ih.cons c)

/-- The first run may lose lines of both. -/
lemma retains_trimFirst (n : Nat) (runs : List Run) :
    Retains (stepsOf (trimFirst n runs)) (stepsOf runs) := by
  rcases runs with _ | ⟨lines | ⟨removed, added⟩, runs⟩
  · exact .refl _
  · exact (Retains.map_same (List.drop_sublist _ lines)).append (.refl _)
  · exact .refl _

/-- So may the last. -/
lemma retains_trimLast (n : Nat) (runs : List Run) :
    Retains (stepsOf (trimLast n runs)) (stepsOf runs) := by
  induction runs with
  | nil => exact .refl _
  | cons run runs ih =>
    rcases run with lines | ⟨removed, added⟩
    · rcases runs with _ | ⟨next, runs⟩
      · exact (Retains.map_same (List.take_sublist n lines)).append (.refl _)
      · exact (Retains.refl _).append ih
    · exact (Retains.refl _).append ih

/-- The first and the last of many lines. -/
lemma take_append_lastLines {n : Nat} {lines : List Text} (h : 2 * n < lines.length) :
    (lines.take n ++ lastLines n lines).Sublist lines := by
  have hback : (lastLines n lines).Sublist (lines.drop n) := by
    rw [lastLines, show lines.length - n = n + (lines.length - n - n) by omega, ← List.drop_drop]
    exact List.drop_sublist _ _
  calc (lines.take n ++ lastLines n lines).Sublist (lines.take n ++ lines.drop n) :=
        (List.Sublist.refl _).append hback
    _ = lines := List.take_append_drop n lines

/-- **Grouping leaves out nothing but lines of both.** -/
lemma retains_groupsFrom (n : Nat) (group : List Change) (runs : List Run) :
    Retains (groupsFrom n group runs).flatten (group ++ stepsOf runs) := by
  induction runs generalizing group with
  | nil =>
    simp only [groupsFrom, stepsOf, List.flatMap_nil, List.append_nil, List.flatten_cons,
      List.flatten_nil]
    exact .refl _
  | cons run runs ih =>
    rcases run with lines | ⟨removed, added⟩
    · rw [groupsFrom, stepsOf_cons]
      split
      next hlong =>
        -- the group ends here, and its last lines start the next one
        have hends := (Retains.map_same (take_append_lastLines hlong)).append (.refl (stepsOf runs))
        rw [List.map_append, List.append_assoc] at hends
        have hnext := (Retains.refl ((lines.take n).map Change.same)).append
          (ih ((lastLines n lines).map .same))
        rw [List.flatten_cons, List.append_assoc]
        exact (Retains.refl group).append (hnext.trans hends)
      next =>
        rw [← List.append_assoc]
        exact ih _
    · rw [groupsFrom, stepsOf_cons, ← List.append_assoc]
      exact ih _

/-- **The method of fewest changes is sound.** -/
lemma sound_fewest : fewest.Sound := by
  have hgroups : ∀ n changes, Retains (groups n changes).flatten (stepsOf (runs changes)) := by
    intro n changes
    have hgroups := retains_groupsFrom n [] (trimLast n (trimFirst n (runs changes)))
    exact hgroups.trans ((retains_trimLast n _).trans (retains_trimFirst n _))
  refine ⟨leads_script, fun n expected actual c hc => ?_, fun n expected actual => ?_⟩
  · exact (perm_stepsOf_runs _).subset ((hgroups n _).sublist.subset hc)
  · have hfilter := (hgroups n (script expected actual)).filter_eq
    exact (List.Perm.of_eq hfilter).trans ((perm_stepsOf_runs _).filter _)

end RuleSheet.LineDiff
