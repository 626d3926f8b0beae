import RuleSheet.Proofs.Conversion.Untranslated

/-!
# Error markers as comments

What could not be translated stands in the code as a comment, with the text that it was read from
and the reason.  Ends of comments in that text are broken, those in the reason are not.  The reason
quotes an operand, so an operand can end the comment before its end.

## Main definitions

* `RuleSheet.commentEnd` — the end of a comment.
* `RuleSheet.EndsOnce` — a text in which a comment ends nowhere but at the end.

## Main results

* `RuleSheet.not_infix_breakCommentEnds` — no comment ends in a text whose ends of comments are
  broken.
* `RuleSheet.Obstacle.infix_message_iff` — where a comment ends in the wording of a reason.
* `RuleSheet.endsOnce_errorMarker_iff` — when a marker is one comment.
* `RuleSheet.Comparison.endsOnce_code_iff` — when the code of a comparison that could not be
  translated is one comment.
-/

set_option autoImplicit false

namespace RuleSheet

open Text

/-! ### Ends of comments -/

/-- The end of a comment. -/
def commentEnd : Text := ['*', '/']

/-- A text in which a comment ends nowhere but at the end. -/
def EndsOnce (t : Text) : Prop := ∀ before after, t = before ++ commentEnd ++ after → after = []

/-- The mark does not start in words without stars. -/
lemma infix_behind_iff (words : Text) (hstar : '*' ∉ words) (t : Text) :
    commentEnd <:+: words ++ t ↔ commentEnd <:+: t := by
  induction words with
  | nil => rfl
  | cons c words ih =>
    rw [List.mem_cons, not_or] at hstar
    rw [List.cons_append, List.infix_cons_iff, ih hstar.2]
    exact or_iff_right fun hstart => hstar.1 (List.cons_prefix_cons.mp hstart).1

/-- The mark does not end in words without slashes. -/
lemma infix_before_iff (words : Text) (hslash : '/' ∉ words) (t : Text) :
    commentEnd <:+: t ++ words ↔ commentEnd <:+: t := by
  induction words using List.reverseRecOn with
  | nil => rw [List.append_nil]
  | append_singleton words c ih =>
    rw [List.mem_append, List.mem_singleton, not_or] at hslash
    rw [← List.append_assoc, List.infix_concat_iff, ih hslash.1]
    refine or_iff_right fun hend => hslash.2 ?_
    obtain ⟨front, hfront, -⟩ :=
      (List.suffix_concat_iff.mp hend).resolve_left (List.cons_ne_nil _ _)
    have hlast : ['*'] ++ ['/'] = front ++ [c] := hfront
    exact List.singleton_inj.mp (List.append_inj' hlast rfl).2

/-- The mark stands on one side of words that lack its characters. -/
lemma infix_around_iff (words : Text) (hne : words ≠ []) (hwords : '*' ∉ words ∧ '/' ∉ words)
    (s t : Text) : commentEnd <:+: s ++ words ++ t ↔ commentEnd <:+: s ∨ commentEnd <:+: t := by
  obtain ⟨d, rest, rfl⟩ := List.exists_cons_of_ne_nil hne
  simp only [List.mem_cons, not_or] at hwords
  have hd : d ∉ commentEnd := by simp [commentEnd, Ne.symm hwords.1.1, Ne.symm hwords.2.1]
  rw [List.append_assoc, List.cons_append, infix_append_cons_iff hd,
    infix_behind_iff rest hwords.1.2]

/-- The end of a comment is the only one if none stands in front of it. -/
lemma endsOnce_append_iff (t : Text) : EndsOnce (t ++ commentEnd) ↔ ¬ commentEnd <:+: t := by
  constructor
  · rintro h ⟨before, after, rfl⟩
    have hnil := h before (after ++ commentEnd) (List.append_assoc _ _ _)
    exact List.append_ne_nil_of_right_ne_nil after (List.cons_ne_nil _ _) hnil
  · intro h before after heq
    rcases List.eq_nil_or_concat' after with hnil | ⟨front, last, rfl⟩
    · exact hnil
    · -- the mark would end in front of the last character, and so in front of the last mark
      have hfront : t ++ ['*'] = before ++ commentEnd ++ front := by
        have hconcat : (t ++ ['*']) ++ ['/'] = (before ++ commentEnd ++ front) ++ [last] := by
          rw [List.append_assoc, List.append_assoc _ front]
          exact heq
        exact (List.append_inj' hconcat rfl).1
      have hoccurs : commentEnd <:+: t ++ ['*'] := ⟨before, front, hfront.symm⟩
      rcases List.infix_concat_iff.mp hoccurs with ⟨rest, hrest⟩ | hinside
      · have hlast : (rest ++ ['*']) ++ ['/'] = t ++ ['*'] := by
          rw [List.append_assoc]
          exact hrest
        exact absurd (List.append_inj' hlast rfl).2 (by decide)
      · exact absurd hinside h

/-! ### The text of a marker -/

/-- Breaking ends of comments leaves the first character as it is. -/
lemma head?_breakCommentEnds (t : Text) : (breakCommentEnds t).head? = t.head? := by
  unfold breakCommentEnds
  split <;> rfl

/-- **No comment ends in a text whose ends of comments are broken.** -/
lemma not_infix_breakCommentEnds (t : Text) : ¬ commentEnd <:+: breakCommentEnds t := by
  fun_induction breakCommentEnds t with
  | case1 rest ih =>
    intro h
    simp only [commentEnd, List.infix_cons_iff] at h ih
    simp_all
  | case2 c rest hnot ih =>
    intro h
    rcases List.infix_cons_iff.mp h with hstart | hinside
    · -- then the mark is there without the breaking as well, and would have been broken
      obtain ⟨rfl, tail, hnext⟩ := List.cons_prefix_cons.mp hstart
      have hhead : rest.head? = some '/' := by
        rw [← head?_breakCommentEnds, ← hnext]
        rfl
      obtain ⟨behind, rfl⟩ := List.head?_eq_some_iff.mp hhead
      exact hnot behind rfl rfl
    · exact ih hinside
  | case3 => simp [commentEnd]

/-- A comment ends in the wording of a reason where it ends in a text that the reason quotes. -/
lemma Obstacle.infix_message_iff (reason : Obstacle) :
    commentEnd <:+: reason.message ↔ ∃ t ∈ reason.quoted, commentEnd <:+: t := by
  have hone : ∀ words t : Text, '*' ∉ words →
      (commentEnd <:+: words ++ t ↔ ∃ s ∈ [t], commentEnd <:+: s) := by
    intro words t hwords
    rw [infix_behind_iff words hwords]
    simp
  cases reason with
  | entityNotFound entity => exact hone "entity not found: " entity (by decide)
  | fieldNotFound entity label =>
    have hmessage : message (.fieldNotFound entity label) =
        "field not found: " ++ entity ++ ".(" ++ label ++ ")" := rfl
    rw [hmessage, infix_before_iff ")" (by decide), infix_around_iff ".(" (by decide) (by decide),
      infix_behind_iff "field not found: " (by decide)]
    simp [quoted]
  | unsupportedValue value => exact hone "unsupported value: " value (by decide)
  | unrecognized text => exact hone "unrecognized pattern: " text (by decide)

/-- The mark does not end in the opening of a marker, which has a star but behind a slash. -/
lemma infix_opening_iff (t : Text) : commentEnd <:+: "/*ERROR: " ++ t ↔ commentEnd <:+: t := by
  have hopening : ("/*ERROR: " : Text) = ['/', '*', 'E'] ++ "RROR: " := rfl
  rw [hopening, List.append_assoc]
  simp only [List.cons_append, List.nil_append, List.infix_cons_iff]
  rw [infix_behind_iff "RROR: " (by decide)]
  simp [commentEnd]

/-- A comment ends in the body of a marker where it ends in a text that the reason quotes. -/
lemma infix_markerBody_iff (raw : Text) (reason : Option Obstacle) :
    commentEnd <:+: markerBody raw reason ↔ ∃ r ∈ reason, ∃ t ∈ r.quoted, commentEnd <:+: t := by
  have hraw := not_infix_breakCommentEnds raw
  cases reason with
  | none => simp [markerBody, hraw]
  | some r =>
    have hbody : markerBody raw (some r) = breakCommentEnds raw ++ " [" ++ r.message ++ "]" := rfl
    rw [hbody, infix_before_iff "]" (by decide), infix_around_iff " [" (by decide) (by decide),
      r.infix_message_iff]
    simp [hraw]

/-- **When a marker is one comment**: no comment ends in a text that the reason quotes. -/
lemma endsOnce_errorMarker_iff (raw : Text) (reason : Option Obstacle) :
    EndsOnce (errorMarker raw reason) ↔
      ∀ r ∈ reason, ∀ t ∈ r.quoted, ¬ commentEnd <:+: t := by
  have hmarker : errorMarker raw reason = ("/*ERROR: " ++ markerBody raw reason) ++ commentEnd :=
    (errorMarker_eq raw reason).trans (List.append_assoc _ _ _).symm
  rw [hmarker, endsOnce_append_iff, infix_opening_iff, infix_markerBody_iff]
  simp only [not_exists, not_and]

/-! ### Comparisons that could not be translated -/

namespace Comparison

/-- **Comparisons that could not be translated as comments.**  The code of a comparison that could
not be read, or with an operand that has no meaning, starts as an error marker and ends as a
comment.  It is one comment if and only if no comment ends in a text that the reason quotes; this is
so for every comparison that could not be read, and wherever no comment ends in the operands.

**Proof sketch.** The code is a marker (`code_eq_errorMarker`).  No comment ends in its first text,
in which ends of comments are broken, so only the texts that the reason quotes count
(`endsOnce_errorMarker_iff`), and these stand in the operands. -/
theorem endsOnce_code_iff {tree : FileTree} {c : Comparison} {l : Lexicon}
    (h : c.Untranslated tree l) :
    "/*ERROR: " <+: (c.code tree l).1 ∧ commentEnd <:+ (c.code tree l).1 ∧
      (EndsOnce (c.code tree l).1 ↔
        ∀ reason ∈ c.obstacle? tree l, ∀ t ∈ reason.quoted, ¬ commentEnd <:+: t) ∧
      (c.unreadable = true → EndsOnce (c.code tree l).1) ∧
      (¬ commentEnd <:+: c.left → ¬ commentEnd <:+: c.right → EndsOnce (c.code tree l).1) := by
  rw [code_eq_errorMarker h]
  have hmarker := errorMarker_eq c.raw (c.obstacle? tree l)
  refine ⟨⟨_, hmarker.symm⟩, ?_, endsOnce_errorMarker_iff _ _, fun hread => ?_,
    fun hleft hright => ?_⟩
  · rw [hmarker, ← List.append_assoc]
    exact List.suffix_append _ _
  · rw [endsOnce_errorMarker_iff, obstacle?, if_pos hread]
    simp
  · rw [endsOnce_errorMarker_iff]
    intro reason hreason t ht hoccurs
    rcases infix_of_mem_quoted hreason t ht with hl | hr
    · exact hleft (hoccurs.trans hl)
    · exact hright (hoccurs.trans hr)

/-- A lexicon that knows no entities. -/
def bareLexicon : Lexicon := .ofCatalog (.ofSources .empty) .empty

/-- A comparison whose left operand has no meaning, and in whose right one a comment ends. -/
def starredPart : Comparison :=
  .of "項目「帽子.(色)」" .equal "x*/y" "項目「帽子.(色)」＝x*/y"

/-- The reason quotes the left operand only, so the code is one comment. -/
theorem endsOnce_code_starredPart :
    starredPart.Untranslated .empty bareLexicon ∧
      (starredPart.code .empty bareLexicon).1 =
        "/*ERROR: 項目「帽子.(色)」＝x* /y [entity not found: 帽子]*/" ∧
      EndsOnce (starredPart.code .empty bareLexicon).1 := by
  have huntranslated : starredPart.Untranslated .empty bareLexicon :=
    .inr (.inl (by decide +kernel))
  have hobstacle : starredPart.obstacle? .empty bareLexicon = some (.entityNotFound "帽子") := by
    decide +kernel
  refine ⟨huntranslated, by decide +kernel, (endsOnce_code_iff huntranslated).2.2.1.mpr ?_⟩
  rw [hobstacle]
  rintro reason hreason t ht hoccurs
  obtain rfl := Option.some.inj hreason
  obtain rfl := List.mem_singleton.mp ht
  exact absurd (hoccurs.subset List.mem_cons_self) (by decide)

/-- A comparison with a field of an entity in whose name a comment ends. -/
def closingPart : Comparison :=
  .of "項目「a*/b.(c)」" .equal "1" "項目「a*/b.(c)」＝1"

/-- The comment ends inside the reason, and what is left of the marker stands outside of it. -/
theorem endsOnce_code_closingPart :
    closingPart.OneLine ∧ closingPart.Untranslated .empty bareLexicon ∧
      (closingPart.code .empty bareLexicon).1 =
        "/*ERROR: 項目「a* /b.(c)」＝1 [entity not found: a" ++ commentEnd ++ "b]*/" ∧
      ¬ EndsOnce (closingPart.code .empty bareLexicon).1 := by
  have hcode : (closingPart.code .empty bareLexicon).1 =
      "/*ERROR: 項目「a* /b.(c)」＝1 [entity not found: a" ++ commentEnd ++ "b]*/" := by
    decide +kernel
  refine ⟨⟨by decide, by decide, by decide⟩, .inr (.inl (by decide +kernel)), hcode,
    fun honce => ?_⟩
  exact absurd (honce _ _ hcode) (by decide)

end Comparison

end RuleSheet
