import RuleSheet.Proofs.Files
import RuleSheet.Proofs.Text.Trim
import RuleSheet.Regression.Expectation

/-!
# Expectations that are kept

An expectation that was saved is loaded as the code that it was saved for, and what was there before
is found beside it.

## Main definitions

* `RuleSheet.Regression.CanonicalBody` — canonical code without the line feed at its end.
* `RuleSheet.Regression.hasParent` — the folder of an expectation is there.

## Main results

* `RuleSheet.Regression.canonical_canonical` — the canonical form of canonical code.
* `RuleSheet.Regression.grown_saveExpectation` — saving changes nothing but the expectation and the
  one kept beside it.
* `RuleSheet.Regression.loadExpectation_of_save`, `backup_of_save` — what can be read afterwards.
-/

set_option autoImplicit false

namespace RuleSheet.Regression

open Text

/-! ### Canonical code -/

/-- Canonical code without the line feed at its end. -/
structure CanonicalBody (body : Text) : Prop where
  /-- It ends with something else than a line feed. -/
  last : ∃ front c, body = front ++ [c] ∧ c ≠ '\n'
  /-- It does not start with a byte order mark. -/
  first : ∃ c rest, body = c :: rest ∧ c.toNat ≠ 0xFEFF
  /-- Its lines have no blanks at their ends. -/
  trimmed : ∀ line ∈ body.splitOn '\n', trimEnd line = line

/-- A line without blanks at its end does not end with a carriage return. -/
lemma dropReturn_of_trimEnd {line : Text} (h : trimEnd line = line) : dropReturn line = line := by
  unfold dropReturn
  split
  next hlast =>
    rcases trimEndBy_eq_nil_or isBlank line with hnil | ⟨front, c, heq, hc⟩
    · rw [show line = [] from h.symm.trans hnil] at hlast
      cases hlast
    · rw [show line = front ++ [c] from h.symm.trans heq, List.getLast?_append] at hlast
      obtain rfl : c = '\r' := by simpa using hlast
      cases hc
  next => rfl

/-- Canonical code is its own canonical form. -/
lemma CanonicalBody.canonical_eq {body : Text} (h : CanonicalBody body) :
    canonical (body ++ ['\n']) = body ++ ['\n'] := by
  obtain ⟨front, last, hlast, hnewline⟩ := h.last
  obtain ⟨c, rest, hfirst, hmark⟩ := h.first
  have hmarks : dropByteOrderMarks (body ++ ['\n']) = body ++ ['\n'] := by
    rw [hfirst, dropByteOrderMarks, trimStartBy, List.cons_append]
    exact List.dropWhile_cons_of_neg (by simpa using hmark)
  have hlines : (lines (body ++ ['\n'])).map trimEnd = body.splitOn '\n' := by
    rw [lines_concat_newline, List.map_map]
    refine (List.map_congr_left fun line hline => ?_).trans (List.map_id _)
    rw [Function.comp_apply, dropReturn_of_trimEnd (h.trimmed line hline), h.trimmed line hline, id]
  have htrim : trimEndBy (· = '\n') body = body := by
    rw [hlast]
    exact List.rdropWhile_concat_neg _ front last (by simpa using hnewline)
  have hne : body ≠ [] := by simp [hfirst]
  rw [canonical, hmarks, hlines, join, List.intercalate_splitOn, htrim, if_neg hne]

/-- The first line of a text is what the text starts with. -/
lemma isPrefix_of_lines {t line : Text} {more : List Text} (h : lines t = line :: more) :
    line <+: t := by
  obtain ⟨first, others, hsplit⟩ := List.exists_cons_of_ne_nil (List.splitOn_ne_nil '\n' t)
  have hwhole : join ['\n'] (t.splitOn '\n') = t := List.intercalate_splitOn '\n'
  rw [hsplit] at hwhole
  rw [lines, hsplit] at h
  cases others with
  | nil =>
    rw [linesOfPieces] at h
    rw [join_singleton] at hwhole
    split at h
    · cases h
    · obtain ⟨rfl, -⟩ := List.cons.inj h
      exact ⟨[], by rw [List.append_nil, hwhole]⟩
  | cons next others =>
    rw [join_cons first (by simp)] at hwhole
    obtain ⟨rfl, -⟩ := List.cons.inj h
    have hfirst : dropReturn first <+: first := by
      unfold dropReturn
      split
      · exact List.dropLast_prefix first
      · exact List.prefix_rfl
    exact hfirst.trans ⟨_, hwhole⟩

/-- What is joined from trimmed lines does not start with a byte order mark. -/
lemma head_of_join {t rest : Text} {c : Char}
    (h : join ['\n'] ((lines (dropByteOrderMarks t)).map trimEnd) = c :: rest) :
    c.toNat ≠ 0xFEFF := by
  cases hlines : lines (dropByteOrderMarks t) with
  | nil =>
    rw [hlines] at h
    cases h
  | cons line more =>
    rw [hlines, List.map_cons] at h
    cases hline : trimEnd line with
    | nil =>
      -- the text starts with an empty line, and so with a line feed
      rw [hline] at h
      cases more with
      | nil =>
        rw [List.map_nil, join_singleton] at h
        cases h
      | cons next more =>
        rw [join_cons [] (by simp), List.nil_append] at h
        obtain ⟨rfl, -⟩ := List.cons.inj h
        decide
    | cons d trimmed =>
      have hstart : d :: trimmed <+: dropByteOrderMarks t := by
        obtain ⟨u, -, hu⟩ := exists_trimEndBy isBlank line
        rw [← hline]
        exact List.IsPrefix.trans ⟨u, hu⟩ (isPrefix_of_lines hlines)
      obtain ⟨behind, hbehind⟩ := hstart
      obtain ⟨after, hafter⟩ := exists_join_cons '\n' (trimEnd line) (more.map trimEnd)
      rw [hafter, hline] at h
      obtain ⟨rfl, -⟩ := List.cons.inj h
      simpa using not_of_trimStartBy hbehind.symm

/-- The pieces in front of separators at the end are pieces of the whole text. -/
lemma mem_splitOn_append {body u line : Text} (hu : ∀ c ∈ u, decide (c = '\n') = true)
    (h : line ∈ body.splitOn '\n') : line ∈ (body ++ u).splitOn '\n' := by
  cases u with
  | nil => rwa [List.append_nil]
  | cons d u =>
    obtain rfl : d = '\n' := of_decide_eq_true (hu d List.mem_cons_self)
    rw [List.splitOn_append_cons_self]
    exact List.mem_append_left _ h

/-- What trimming the lines leaves stays on one line and is trimmed. -/
lemma of_mem_trimmed {t line : Text}
    (h : line ∈ (lines (dropByteOrderMarks t)).map trimEnd) :
    '\n' ∉ line ∧ trimEnd line = line := by
  obtain ⟨whole, hwhole, rfl⟩ := List.mem_map.mp h
  refine ⟨fun hin => ?_, List.rdropWhile_idempotent isBlank whole⟩
  exact newline_not_mem_of_mem_lines hwhole (trimEnd_subset whole hin)

/-- Code has a canonical body unless there is nothing. -/
lemma exists_canonicalBody (t : Text) :
    canonical t = [] ∨ ∃ body, CanonicalBody body ∧ canonical t = body ++ ['\n'] := by
  obtain ⟨u, hu, hwhole⟩ := exists_trimEndBy (· = '\n')
    (join ['\n'] ((lines (dropByteOrderMarks t)).map trimEnd))
  rw [canonical]
  split
  next => exact .inl rfl
  next hne =>
    refine .inr ⟨_, ⟨?_, ?_, fun line hline => ?_⟩, rfl⟩
    · rcases trimEndBy_eq_nil_or (· = '\n') (join ['\n'] _) with hnil | ⟨front, c, heq, hc⟩
      · exact absurd hnil hne
      · exact ⟨front, c, heq, by simpa using hc⟩
    · obtain ⟨c, rest, heq⟩ := List.exists_cons_of_ne_nil hne
      rw [heq] at hwhole
      exact ⟨c, rest, heq, head_of_join hwhole.symm⟩
    · have hmem := mem_splitOn_append hu hline
      have hpieces : (lines (dropByteOrderMarks t)).map trimEnd ≠ [] := by
        intro hnil
        rw [hnil] at hne
        exact hne rfl
      have hnewline : ∀ piece ∈ (lines (dropByteOrderMarks t)).map trimEnd, '\n' ∉ piece :=
        fun piece hpiece => (of_mem_trimmed hpiece).1
      rw [hwhole, join, List.splitOn_intercalate '\n' hnewline hpieces] at hmem
      exact (of_mem_trimmed hmem).2

/-- **The canonical form of canonical code** is that code. -/
lemma canonical_canonical (t : Text) : canonical (canonical t) = canonical t := by
  rcases exists_canonicalBody t with hnil | ⟨body, hbody, heq⟩
  · rw [hnil]
    rfl
  · rw [heq, hbody.canonical_eq]

/-! ### Paths of backups -/

open FileTree

/-- Different names in a folder are different places. -/
lemma child_inj {folder name other : Text} (h : child folder name = child folder other) :
    name = other := by
  unfold child at h
  split at h
  · exact List.append_cancel_left h
  · exact (List.cons.inj (List.append_cancel_left h)).2

/-- **The backup of an expectation is not the expectation.** -/
lemma placeOf_backupPath_ne {tree : FileTree} {path : Text}
    (hlocate : tree.locate path = .ok (placeOf path))
    (hfolder : tree.hasFolder (placeOf path) = false) :
    placeOf (backupPath path) ≠ placeOf path := by
  obtain ⟨front, folder, name, hsplit, hfront, -, -, hchild⟩ :=
    exists_child_of_locate hlocate hfolder
  have hstart : startOf (backupPath path) = startOf path := by
    cases path with
    | nil => cases hlocate
    | cons c path =>
      by_cases hc : c = '/'
      · rw [hc]
        rfl
      · simp [startOf, backupPath, Path.isAbsolute, hc]
  have hlong : ∀ short : Text, short.length ≤ 2 → name ++ ".bak" ≠ short := by
    rintro short hshort rfl
    simp at hshort
  have hbackup : placeOf (backupPath path) = child folder (name ++ ".bak") := by
    rw [placeOf, hstart, backupPath, splitOn_append hsplit (by decide), List.foldl_append, hfront,
      List.foldl_cons, List.foldl_nil, step, if_neg, if_neg]
    · exact hlong _ (by decide)
    · rintro (h | h)
      · exact hlong _ (by decide) h
      · exact hlong _ (by decide) h
  intro heq
  rw [hbackup, hchild] at heq
  have hname := child_inj heq
  simp at hname

/-! ### Saving -/

variable {tree tree' : FileTree} {path code : Text}

/-- Whether the folder of an expectation is there. -/
def hasParent (tree : FileTree) (path : Text) : Bool :=
  (Path.parent? path).getD [] = [] || tree.isFolder ((Path.parent? path).getD [])

/-- Everything that copying a file does. -/
lemma of_copy {source target : Text} (h : tree.copy source target = .ok tree') :
    ∃ content, tree.contentAt source = .ok content ∧
      tree.writeContent target content = .ok tree' := by
  unfold copy at h
  split at h
  · cases h
  · exact Except.bind_eq_ok_iff.mp h

/-- Everything that saving an expectation does: the last one is copied if there is one, the folder
is made, and the code is written. -/
lemma of_saveExpectation (h : saveExpectation tree path code = .ok tree') :
    ∃ kept made, (tree.hasEntry path = true ∧ tree.copy path (backupPath path) = .ok kept ∨
        tree.hasEntry path = false ∧ kept = tree) ∧
      kept.makeFolders ((Path.parent? path).getD []) = .ok made ∧
      made.writeContent path (.text (canonical code)) = .ok tree' := by
  unfold saveExpectation at h
  dsimp only at h
  split at h
  next hentry =>
    obtain ⟨kept, hcopy, h⟩ := Except.bind_eq_ok_iff.mp h
    obtain ⟨made, hmade, hwrite⟩ := Except.bind_eq_ok_iff.mp h
    exact ⟨kept, made, .inl ⟨hentry, hcopy⟩, hmade, hwrite⟩
  next hentry =>
    obtain ⟨kept, hkept, h⟩ := Except.bind_eq_ok_iff.mp h
    obtain ⟨made, hmade, hwrite⟩ := Except.bind_eq_ok_iff.mp h
    exact ⟨kept, made, .inr ⟨by simpa using hentry, (Except.ok.inj hkept).symm⟩, hmade, hwrite⟩

/-- Keeping the last expectation lets a tree grow. -/
lemma grown_kept {kept : FileTree}
    (h : tree.hasEntry path = true ∧ tree.copy path (backupPath path) = .ok kept ∨
      tree.hasEntry path = false ∧ kept = tree) : Grown [placeOf (backupPath path)] tree kept := by
  rcases h with ⟨-, hcopy⟩ | ⟨-, rfl⟩
  · obtain ⟨content, -, hwrite⟩ := of_copy hcopy
    exact grown_writeContent hwrite
  · exact .refl _ _

/-- **Saving changes nothing but the expectation and its backup.** -/
lemma grown_saveExpectation (h : saveExpectation tree path code = .ok tree') :
    Grown [placeOf (backupPath path), placeOf path] tree tree' := by
  obtain ⟨kept, made, hkept, hmade, hwrite⟩ := of_saveExpectation h
  exact (grown_kept hkept).trans ((grown_makeFolders hmade).trans (grown_writeContent hwrite))

/-- **A saved expectation is loaded as the canonical form of the code.** -/
lemma loadExpectation_of_save (h : saveExpectation tree path code = .ok tree') :
    loadExpectation tree' path = .ok (canonical code) := by
  obtain ⟨kept, made, -, -, hwrite⟩ := of_saveExpectation h
  have hread := (read_eq_ok_iff tree' path _).mpr (contentAt_of_writeContent hwrite)
  rw [loadExpectation, hread, Except.map, canonical_canonical]

/-- **The expectation that was there before is kept beside the new one.** -/
lemma backup_of_save {content : Content} (h : saveExpectation tree path code = .ok tree')
    (hcontent : tree.contentAt path = .ok content) :
    tree'.contentAt (backupPath path) = .ok content := by
  obtain ⟨kept, made, hkept, hmade, hwrite⟩ := of_saveExpectation h
  obtain ⟨hlocate, hfolder, -⟩ := of_writeContent hwrite
  have hapart : placeOf (backupPath path) ∉ [] ++ [placeOf path] := by
    simpa using placeOf_backupPath_ne hlocate hfolder
  rcases hkept with ⟨-, hcopy⟩ | ⟨hnone, -⟩
  · obtain ⟨copied, hcopied, hbackup⟩ := of_copy hcopy
    obtain rfl : copied = content := Except.ok.inj (hcopied.symm.trans hcontent)
    exact ((grown_makeFolders hmade).trans (grown_writeContent hwrite)).contentAt hapart
      (contentAt_of_writeContent hbackup)
  · rw [hasEntry_of_contentAt hcontent] at hnone
    cases hnone

/-- Saving makes no folders if that of the expectation is there. -/
lemma hasFolder_of_save (h : saveExpectation tree path code = .ok tree')
    (hparent : hasParent tree path = true) {place : Text} (hplace : tree'.hasFolder place = true) :
    tree.hasFolder place = true := by
  obtain ⟨kept, made, hkept, hmade, hwrite⟩ := of_saveExpectation h
  rw [hasParent, Bool.or_eq_true, decide_eq_true_eq] at hparent
  have hfolder := hparent.imp_right (grown_kept hkept).isFolder
  obtain rfl : kept = made := Except.ok.inj ((makeFolders_of_isFolder hfolder).symm.trans hmade)
  have hbefore := hasFolder_of_writeContent hwrite hplace
  rcases hkept with ⟨-, hcopy⟩ | ⟨-, rfl⟩
  · obtain ⟨content, -, hbackup⟩ := of_copy hcopy
    exact hasFolder_of_writeContent hbackup hbefore
  · exact hbefore

end RuleSheet.Regression
