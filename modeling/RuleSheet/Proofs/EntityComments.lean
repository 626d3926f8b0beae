import RuleSheet.Proofs.EntitySource

/-!
# Comments on one line of an entity source

A block comment that begins and ends on one line and documents no column is not seen by the scan of
an entity source, with one exception.  The opening mark of a documentation comment is `/**`, and in
the empty comment `/**/` its last star belongs to the closing mark.  The scan takes the star for the
opening mark, finds no closing mark behind it, and reads the lines that follow as the lines of a
comment.

## Main definitions

* `RuleSheet.Entity.IsBlockComment` — a line that is a block comment.
* `RuleSheet.Entity.Neutral` — a line that can be left out wherever the scan is outside of comments.

## Main results

* `RuleSheet.Entity.columnNote?_of_not_mem` — a comment without a bracket documents no column.
* `RuleSheet.Entity.Scan.line_of_isBlockComment` — what a block comment does to a scan.
* `RuleSheet.Entity.neutral_iff` — all block comments without a bracket are neutral but the empty
  one.
-/

set_option autoImplicit false

namespace RuleSheet.Entity

open Text Java

/-- A line that is a block comment: it starts with the opening mark, and the first closing mark
behind it ends the line. -/
def IsBlockComment (line : Text) : Prop :=
  ∃ body, line = "/*" ++ body ++ "*/" ∧ ¬ ("*/" : Text) <:+: body

/-- A line that makes no difference to what is extracted from a source, wherever it stands behind
the header of the class and outside of comments. -/
def Neutral (line : Text) : Prop :=
  ∀ (xs ys : List Text) (source rest : Text),
    lines source = xs ++ line :: ys → lines rest = xs ++ ys →
    (xs.foldl Scan.line .start).comment = none →
    (xs.foldl Scan.line .start).entity.className.isSome = true → ofSource source = ofSource rest

/-! ### Comments that document no column -/

/-- Without a bracket there is no note. -/
lemma firstNote?_of_not_mem {t : Text} (h : '[' ∉ t) : firstNote? t = none := by
  induction t with
  | nil => rfl
  | cons c t ih =>
    rw [List.mem_cons, not_or] at h
    have hhere : noteHere? (c :: t) = none := by
      unfold noteHere?
      split
      next heq => exact absurd (List.cons.inj heq).1.symm h.1
      next => rfl
    rw [firstNote?, hhere, ih h.2]
    rfl

/-- **A comment without a bracket documents no column.** -/
lemma columnNote?_of_not_mem {t : Text} (h : '[' ∉ t) : columnNote? t = none := by
  rw [columnNote?, firstNote?_of_not_mem h]
  rfl

/-! ### What a block comment does to a scan -/

namespace Scan

variable {s : Scan} {name : Text}

/-- The end of a comment that documents no column. -/
lemma close_of_not_mem {t : Text} (h : '[' ∉ t) (hcomment : s.comment = none) :
    s.close [t] = s := by
  rw [close, join_singleton, columnNote?_of_not_mem h]
  show { s with comment := none } = s
  rw [← hcomment]

/-- A documentation comment, whose closing mark is behind its opening mark. -/
lemma body_documentation {body : Text} (hmark : ¬ ("*/" : Text) <:+: body) (hbracket : '[' ∉ body)
    (hcomment : s.comment = none) : s.body ("/**" ++ (body ++ "*/")) = s := by
  have hafter : after? "/**" ("/**" ++ (body ++ "*/")) = some (body ++ "*/") :=
    (after?_eq_some_iff _ _ _).mpr rfl
  have hcut : cut? "*/" (body ++ "*/") = some (body, []) := cut?_mark hmark []
  have htrim : '[' ∉ trim body := fun hmem => hbracket (trim_subset body hmem)
  rw [body_of_after? hafter, openComment, hcut]
  exact close_of_not_mem htrim hcomment

/-- A block comment that is no documentation comment.  It is no declaration either. -/
lemma body_plain {c : Char} (hc : c ≠ '*') (t : Text) (hcomment : s.comment = none)
    (htrim : trim ('/' :: '*' :: c :: t) = '/' :: '*' :: c :: t) :
    s.body ('/' :: '*' :: c :: t) = s := by
  have hafter : after? "/**" ('/' :: '*' :: c :: t) = none := by
    simp [after?, Ne.symm hc]
  have hdeclaration : declaration? ('/' :: '*' :: c :: t) = none := by
    rw [declaration?, htrim]
    rfl
  rw [body_of_no_comment hafter hcomment, code_of_no_declaration hdeclaration]

/-- The empty comment is taken for the opening of a comment. -/
lemma line_emptyComment (hname : s.entity.className = some name) :
    s.line "/**/" = { s with comment := some [("/" : Text)] } := by
  have htrim : trim "/**/" = "/**/" := by decide
  rw [line_of_named hname, htrim]
  rfl

/-- **A block comment without a bracket** is not seen outside of comments, but for the empty one,
which is taken for the opening of a comment.

**Proof sketch.** What stands between the marks is empty, or starts with a star, or does not.  In
the second case the line is a documentation comment; the star is not that of the closing mark, which
is therefore found.  In the third case the line is read as a line of code. -/
lemma line_of_isBlockComment {line : Text} (h : IsBlockComment line) (hbracket : '[' ∉ line)
    (hname : s.entity.className = some name) (hcomment : s.comment = none) :
    s.line line = if line = "/**/" then { s with comment := some [("/" : Text)] } else s := by
  obtain ⟨body, rfl, hmark⟩ := h
  have htrim : trim ("/*" ++ body ++ "*/") = "/*" ++ body ++ "*/" := by
    have hslash : Bare isBlank ['/'] := bare_singleton (by decide)
    have hbare := (hslash.append hslash ("*" ++ body ++ "*")).trimBy_eq
    simpa [trim] using hbare
  have hinside : '[' ∉ body := fun hmem => hbracket (by simp [hmem])
  cases body with
  | nil => exact line_emptyComment hname
  | cons c body =>
    have hlonger : "/*" ++ c :: body ++ "*/" ≠ "/**/".toList := fun heq => by
      simpa using congrArg List.length heq
    rw [if_neg hlonger, line_of_named hname, htrim]
    by_cases hc : c = '*'
    · subst hc
      have hlater : ¬ ("*/" : Text) <:+: body := fun hmem => hmark (List.infix_cons hmem)
      exact body_documentation hlater (fun hmem => hinside (List.mem_cons_of_mem _ hmem)) hcomment
    · exact body_plain hc (body ++ "*/") hcomment htrim

end Scan

/-! ### Lines that can be left out -/

/-- The header of a class and the note of a column. -/
def noteLines : List Text := ["public class A \x7b", "/** [c] l */"]

/-- The declaration of the column and the end of the class. -/
def declarationLines : List Text := ["private String c;", "\x7d"]

/-- The source that is made of these lines. -/
def plainSource : Text := "public class A \x7b\n/** [c] l */\nprivate String c;\n\x7d\n"

/-- The same source with an empty comment in front of the declaration. -/
def emptyCommentSource : Text :=
  "public class A \x7b\n/** [c] l */\n/**/\nprivate String c;\n\x7d\n"

lemma lines_plainSource : lines plainSource = noteLines ++ declarationLines := by decide

lemma lines_emptyCommentSource :
    lines emptyCommentSource = noteLines ++ "/**/".toList :: declarationLines := by decide

lemma comment_noteLines : (noteLines.foldl Scan.line .start).comment = none := by decide

lemma className_noteLines :
    (noteLines.foldl Scan.line .start).entity.className.isSome = true := by decide

/-- The declaration gives the column its type. -/
lemma ofSource_plainSource :
    ofSource plainSource = ⟨some "A", [(Field.ofColumn "c" "l").withType "String"]⟩ := by
  rw [ofSource, lines_plainSource]
  decide

/-- Behind the empty comment the declaration is not read. -/
lemma ofSource_emptyCommentSource :
    ofSource emptyCommentSource = ⟨some "A", [.ofColumn "c" "l"]⟩ := by
  rw [ofSource, lines_emptyCommentSource]
  decide

lemma ofSource_emptyCommentSource_ne : ofSource emptyCommentSource ≠ ofSource plainSource := by
  rw [ofSource_emptyCommentSource, ofSource_plainSource]
  decide

/-- **All block comments without a bracket are neutral but the empty one**, which opens a comment
that the lines behind it belong to. -/
theorem neutral_iff {line : Text} (hcomment : IsBlockComment line) (hbracket : '[' ∉ line) :
    (Neutral line ↔ line ≠ "/**/") ∧
      ∀ s : Scan, s.comment = none → s.entity.className.isSome = true →
        s.line line = if line = "/**/" then { s with comment := some [("/" : Text)] } else s := by
  have hstep (s : Scan) (houtside : s.comment = none) (hnamed : s.entity.className.isSome = true) :
      s.line line = if line = "/**/" then { s with comment := some [("/" : Text)] } else s := by
    obtain ⟨name, hname⟩ := Option.isSome_iff_exists.mp hnamed
    exact Scan.line_of_isBlockComment hcomment hbracket hname houtside
  refine ⟨⟨?_, ?_⟩, hstep⟩
  · rintro hneutral rfl
    exact ofSource_emptyCommentSource_ne (hneutral noteLines declarationLines _ _
      lines_emptyCommentSource lines_plainSource comment_noteLines className_noteLines)
  · intro hempty xs ys source rest hsource hrest houtside hnamed
    have hline := hstep _ houtside hnamed
    rw [if_neg hempty] at hline
    rw [ofSource, ofSource, hsource, hrest, List.foldl_append, List.foldl_append,
      List.foldl_cons, hline]

/-- A source with a comment of stars between a note and its declaration. -/
def starCommentSource : Text :=
  "public class A \x7b\n/** [c] l */\n/***/\nprivate String c;\n\x7d\n"

/-- With one more star the comment is not empty, and it is neutral. -/
theorem neutral_iff_stars :
    IsBlockComment "/***/" ∧ '[' ∉ ("/***/" : Text) ∧
      lines starCommentSource = noteLines ++ "/***/".toList :: declarationLines ∧
      ofSource starCommentSource = ⟨some "A", [(Field.ofColumn "c" "l").withType "String"]⟩ := by
  have hcomment : IsBlockComment "/***/" := ⟨['*'], rfl, by decide⟩
  have hbracket : '[' ∉ ("/***/" : Text) := by decide
  have hlines : lines starCommentSource = noteLines ++ "/***/".toList :: declarationLines := by
    decide
  have hsame : ofSource starCommentSource = ofSource plainSource :=
    (neutral_iff hcomment hbracket).1.mpr (by decide) noteLines declarationLines _ _ hlines
      lines_plainSource comment_noteLines className_noteLines
  exact ⟨hcomment, hbracket, hlines, hsame.trans ofSource_plainSource⟩

/-- The empty comment hides the declaration behind it. -/
theorem not_neutral_emptyComment :
    IsBlockComment "/**/" ∧ '[' ∉ ("/**/" : Text) ∧
      lines emptyCommentSource = noteLines ++ "/**/".toList :: declarationLines ∧
      lines plainSource = noteLines ++ declarationLines ∧
      (noteLines.foldl Scan.line .start).comment = none ∧
      (noteLines.foldl Scan.line .start).entity.className = some "A" ∧
      ofSource emptyCommentSource = ⟨some "A", [.ofColumn "c" "l"]⟩ ∧
      ofSource plainSource = ⟨some "A", [(Field.ofColumn "c" "l").withType "String"]⟩ :=
  ⟨⟨[], rfl, by decide⟩, by decide, lines_emptyCommentSource, lines_plainSource, comment_noteLines,
    by decide, ofSource_emptyCommentSource, ofSource_plainSource⟩

end RuleSheet.Entity
