import Mathlib.Data.List.DropRight
import RuleSheet.Proofs.Regression.Expectation

/-!
# Canonical code, line by line

The canonical form of code is made by cutting, trimming, joining and trimming again.  All of this
comes to one thing: each line is trimmed, the empty ones at the end are left out, and every line
that is left gets a line feed.

## Main definitions

* `RuleSheet.Regression.keptLines` — the lines that are left.

## Main results

* `RuleSheet.Regression.trimEndBy_join` — trimming joined lines leaves out the empty ones at the
  end.
* `RuleSheet.Regression.canonical_eq` — the canonical form is made of the lines that are left.
* `RuleSheet.Regression.canonical_normal` — the canonical form is a normal form.
-/

set_option autoImplicit false

namespace RuleSheet

open Text

namespace Regression

/-! ### Lines that are left -/

/-- The lines of code, trimmed at their ends, without the empty ones behind the last. -/
def keptLines (t : Text) : List Text :=
  ((lines (dropByteOrderMarks t)).map trimEnd).rdropWhile (· = [])

/-- An empty line at the end does not count. -/
lemma trimEndBy_join_concat_nil (pieces : List Text) :
    trimEndBy (· = '\n') (join ['\n'] (pieces ++ [[]])) =
      trimEndBy (· = '\n') (join ['\n'] pieces) := by
  cases pieces with
  | nil => rfl
  | cons piece pieces =>
    rw [join_append (by simp) (by simp), join_singleton]
    exact List.rdropWhile_concat_pos _ _ _ (by simp)

/-- A line that is not empty counts, and so do those before it. -/
lemma trimEndBy_join_concat {piece : Text} (hne : piece ≠ []) (hline : '\n' ∉ piece)
    (pieces : List Text) :
    trimEndBy (· = '\n') (join ['\n'] (pieces ++ [piece])) = join ['\n'] (pieces ++ [piece]) := by
  obtain ⟨front, c, rfl⟩ := (List.eq_nil_or_concat' piece).resolve_left hne
  have hc : c ≠ '\n' := fun h => hline (by simp [h])
  have hstop : ∀ s : Text, trimEndBy (· = '\n') (s ++ [c]) = s ++ [c] := fun s =>
    List.rdropWhile_concat_neg _ s c (by simpa using hc)
  cases pieces with
  | nil => rw [List.nil_append, join_singleton, hstop]
  | cons first pieces =>
    rw [join_append (by simp) (by simp), join_singleton, ← List.cons_append, ← List.append_assoc,
      hstop]

/-- **Trimming joined lines** leaves out the empty ones at the end. -/
lemma trimEndBy_join {pieces : List Text} (h : ∀ piece ∈ pieces, '\n' ∉ piece) :
    trimEndBy (· = '\n') (join ['\n'] pieces) = join ['\n'] (pieces.rdropWhile (· = [])) := by
  induction pieces using List.reverseRecOn with
  | nil => rfl
  | append_singleton pieces piece ih =>
    obtain ⟨hpieces, hpiece⟩ := List.forall_mem_append.mp h
    by_cases hempty : piece = []
    · rw [hempty, trimEndBy_join_concat_nil, ih hpieces, List.rdropWhile_concat_pos _ _ _ (by simp)]
    · rw [trimEndBy_join_concat hempty (hpiece piece (by simp)),
        List.rdropWhile_concat_neg _ _ _ (by simpa using hempty)]

section

variable {t line : Text}

/-- A line that is left stays on one line and is trimmed. -/
lemma of_mem_keptLines (h : line ∈ keptLines t) : '\n' ∉ line ∧ trimEnd line = line :=
  of_mem_trimmed ((List.rdropWhile_prefix _ _).subset h)

/-- Joined to nothing, no lines are left: the last one would not be empty. -/
lemma keptLines_eq_nil (h : join ['\n'] (keptLines t) = []) : keptLines t = [] := by
  by_contra hne
  have hlast : ¬ decide ((keptLines t).getLast hne = []) = true := List.rdropWhile_last_not _ _ hne
  have hempty : keptLines t = [[]] := by
    rw [← List.splitOn_intercalate '\n' (fun line hline => (of_mem_keptLines hline).1) hne]
    exact congrArg (List.splitOn '\n') h
  exact hlast (decide_eq_true (by simp only [hempty, List.getLast_singleton]))

end

/-- **The canonical form is made of the lines that are left**, with a line feed behind each. -/
lemma canonical_eq (t : Text) : canonical t = (keptLines t).flatMap (· ++ ['\n']) := by
  have hbody : trimEndBy (· = '\n') (join ['\n'] ((lines (dropByteOrderMarks t)).map trimEnd)) =
      join ['\n'] (keptLines t) :=
    trimEndBy_join fun piece hpiece => (of_mem_trimmed hpiece).1
  rw [canonical, hbody]
  split
  next hnil => rw [keptLines_eq_nil hnil, List.flatMap_nil]
  next hne =>
    refine (flatMap_concat fun hnil => hne ?_).symm
    rw [hnil]
    rfl

/-- The lines of the canonical form are those that are left. -/
lemma lines_canonical (t : Text) : lines (canonical t) = keptLines t := by
  rw [canonical_eq]
  exact lines_flatMap_concat (fun line hline => (of_mem_keptLines hline).1) fun line hline =>
    dropReturn_of_trimEnd (of_mem_keptLines hline).2

/-- A line that is trimmed at its end does not end with white space. -/
lemma not_isBlank_getLast? {line : Text} (h : trimEnd line = line) {c : Char}
    (hc : line.getLast? = some c) : isBlank c = false := by
  rcases trimEndBy_eq_nil_or isBlank line with hnil | ⟨front, d, heq, hd⟩
  · rw [show line = [] from h.symm.trans hnil] at hc
    cases hc
  · rw [show line = front ++ [d] from h.symm.trans heq, List.getLast?_concat] at hc
    rwa [← Option.some.inj hc]

/-- Every line of the canonical form is trimmed at its end. -/
lemma trimmed_of_mem_splitOn {t line : Text} (h : line ∈ (canonical t).splitOn '\n') :
    trimEnd line = line := by
  rw [canonical_eq, splitOn_flatMap_concat fun line hline => (of_mem_keptLines hline).1] at h
  rcases List.mem_append.mp h with h | h
  · exact (of_mem_keptLines h).2
  · rw [List.mem_singleton.mp h]
    rfl

/-- No carriage return stands before a line feed. -/
lemma no_return_before_newline (t : Text) : ¬ ['\r', '\n'] <:+: canonical t := by
  rintro ⟨front, rest, hwhole⟩
  obtain ⟨pieces, last, hpieces⟩ : ∃ pieces last, front.splitOn '\n' = pieces ++ [last] :=
    ⟨_, _, (List.dropLast_append_getLast (List.splitOn_ne_nil '\n' front)).symm⟩
  -- the line that the carriage return ends is the last one in front of the line feed
  have hmem : last ++ ['\r'] ∈ (canonical t).splitOn '\n' := by
    rw [← hwhole, show front ++ ['\r', '\n'] ++ rest = (front ++ ['\r']) ++ '\n' :: rest by simp,
      List.splitOn_append_cons_self, splitOn_append hpieces (by decide)]
    simp
  have hblank := not_isBlank_getLast? (trimmed_of_mem_splitOn hmem) List.getLast?_concat
  cases hblank

/-- The byte order marks in front of a text, as characters. -/
lemma dropByteOrderMarks_eq (t : Text) : dropByteOrderMarks t = t.dropWhile (· = '\uFEFF') := by
  have hmark : (fun c : Char => decide (c.toNat = 0xFEFF)) = (· = '\uFEFF') := by
    funext c
    exact decide_eq_decide.mpr (Char.toNat_inj (c := c) (d := '\uFEFF'))
  rw [dropByteOrderMarks, hmark, trimStartBy]

/-- **The canonical form is a normal form.**  It is its own canonical form; unless there is nothing
it ends with one line feed; no line ends with white space, so no carriage return stands before a
line feed; it does not start with a byte order mark; and its lines are those of the text behind the
byte order marks, trimmed at their ends, without the empty ones behind the last. -/
theorem canonical_normal (t : Text) :
    canonical (canonical t) = canonical t ∧
      (canonical t = [] ∨ ∃ front c, canonical t = front ++ [c, '\n'] ∧ c ≠ '\n') ∧
      (∀ line ∈ (canonical t).splitOn '\n', ∀ c, line.getLast? = some c → isBlank c = false) ∧
      ¬ ['\r', '\n'] <:+: canonical t ∧
      (canonical t).head? ≠ some '\uFEFF' ∧
      lines (canonical t) =
        ((lines (t.dropWhile (· = '\uFEFF'))).map trimEnd).rdropWhile (· = []) := by
  have hlines : lines (canonical t) =
      ((lines (t.dropWhile (· = '\uFEFF'))).map trimEnd).rdropWhile (· = []) := by
    rw [lines_canonical, keptLines, dropByteOrderMarks_eq]
  refine ⟨canonical_canonical t, ?_, fun line hline c =>
    not_isBlank_getLast? (trimmed_of_mem_splitOn hline), no_return_before_newline t, ?_, hlines⟩
  · rcases exists_canonicalBody t with hnil | ⟨body, hbody, heq⟩
    · exact .inl hnil
    · obtain ⟨front, c, hlast, hc⟩ := hbody.last
      exact .inr ⟨front, c, by rw [heq, hlast, List.append_assoc]; rfl, hc⟩
  · rcases exists_canonicalBody t with hnil | ⟨body, hbody, heq⟩
    · simp [hnil]
    · obtain ⟨c, rest, hfirst, hc⟩ := hbody.first
      rw [heq, hfirst]
      intro hhead
      obtain rfl : c = '\uFEFF' := by simpa using hhead
      exact hc rfl

end Regression

end RuleSheet
