import RuleSheet.Proofs.Guard.Replacement

/-!
# Conditions that must not run

A comparison that could not be translated leaves an error marker in the condition.  Processing looks
for markers in what it takes for the condition: the text up to the bracket that seems to close it.
This module says when a unit with a marker ends up flagged, as comments or for review, and when it
stays code that runs.

## Main definitions

* `RuleSheet.Guard.Flagged` — code that is all comments, or that starts with the line for review.
* `RuleSheet.Guard.closedEarly` — the bracket is closed before any error marker is complete.
* `RuleSheet.Guard.HoldsMarker` — a text with an error marker in it.

## Main results

* `RuleSheet.Guard.closingFrom?_extend`, `prefix_of_closingFrom?` — the search for the closing
  bracket in a text and in a longer one.
* `RuleSheet.Guard.flagged_process_iff` — processing flags a unit unless its bracket is closed
  early.
* `RuleSheet.Guard.closedEarly_append` — whether that is so is settled when a marker is complete.
* `RuleSheet.Guard.closedEarly_marker` — a marker does not close the bracket by itself.
-/

set_option autoImplicit false

namespace RuleSheet.Guard

open Text

/-- Code that does not run unnoticed: all its lines are comments, or it starts with the line that
asks for a review. -/
def Flagged (code : Text) : Prop :=
  (∀ line ∈ lines code, ("//" : Text) <+: line) ∨ reviewMarker ++ ("\n" : Text) <+: code

instance (code : Text) : Decidable (Flagged code) := inferInstanceAs (Decidable (_ ∨ _))

/-- Whether a bracket that is open before a text is closed in it so that no error marker is complete
before. -/
def closedEarly (t : Text) : Bool := (closing? t).any fun found => markers found.1 = []

/-! ### The search in a longer text -/

/-- One step of the search sees no further than the next character. -/
lemma place_step_append (p : Place) (c : Char) {t : Text} (ht : t ≠ []) (s : Text) :
    p.step (t ++ s) c = p.step t c := by
  have hstar : startsWith "*" (t ++ s) = startsWith "*" t := by
    rw [Bool.eq_iff_iff]
    exact (startsWith_singleton '*' _).trans
      ((List.head?_append_of_ne_nil t ht).symm ▸ (startsWith_singleton '*' t).symm)
  cases p with
  | code q =>
    cases q with
    | outside => simp only [Place.step, hstar]
    | inside quote escaped => rfl
  | commentStart => rfl
  | comment star => rfl

/-- A character that does not end the search is part of what is found. -/
lemma closingFrom?_next {depth : Nat} {p : Place} {c : Char}
    (hstop : ¬ (p = .code .outside ∧ c = ')' ∧ depth = 0)) (t : Text) :
    closingFrom? depth p (c :: t) =
      (closingFrom? (if p = .code .outside then depthAfter .outside depth c else depth)
        (p.step t c) t).map fun found => (c :: found.1, found.2) := by
  rw [closingFrom?, if_neg hstop]

/-- What is found in a text is found in a longer one. -/
lemma closingFrom?_extend {t inside rest : Text} (s : Text) : ∀ {depth : Nat} {p : Place},
    closingFrom? depth p t = some (inside, rest) →
      closingFrom? depth p (t ++ s) = some (inside, rest ++ s) := by
  induction t generalizing inside with
  | nil => exact fun h => by cases h
  | cons c t ih =>
    intro depth p h
    by_cases hstop : p = .code .outside ∧ c = ')' ∧ depth = 0
    · rw [closingFrom?, if_pos hstop] at h
      obtain ⟨rfl, rfl⟩ := Prod.mk.inj (Option.some.inj h)
      rw [List.cons_append, closingFrom?, if_pos hstop]
    · rw [closingFrom?_next hstop] at h
      obtain ⟨found, hfound, heq⟩ := Option.map_eq_some_iff.mp h
      obtain ⟨rfl, rfl⟩ := Prod.mk.inj heq
      have ht : t ≠ [] := by
        rintro rfl
        cases hfound
      rw [List.cons_append, closingFrom?_next hstop, place_step_append p c ht, ih hfound]
      rfl

/-- If nothing is found in a text, then what is found in a longer one starts with the whole text. -/
lemma prefix_of_closingFrom? {t s inside rest : Text} : ∀ {depth : Nat} {p : Place},
    closingFrom? depth p t = none → closingFrom? depth p (t ++ s) = some (inside, rest) →
      t <+: inside := by
  induction t generalizing inside with
  | nil => exact fun _ _ => List.nil_prefix
  | cons c t ih =>
    intro depth p hnone h
    by_cases hstop : p = .code .outside ∧ c = ')' ∧ depth = 0
    · rw [closingFrom?, if_pos hstop] at hnone
      cases hnone
    · rw [closingFrom?_next hstop] at hnone
      rw [List.cons_append, closingFrom?_next hstop] at h
      obtain ⟨found, hfound, heq⟩ := Option.map_eq_some_iff.mp h
      obtain ⟨rfl, rfl⟩ := Prod.mk.inj heq
      refine List.cons_prefix_cons.mpr ⟨rfl, ?_⟩
      by_cases ht : t = []
      · rw [ht]
        exact List.nil_prefix
      · rw [place_step_append p c ht] at hfound
        exact ih (Option.map_eq_none_iff.mp hnone) hfound

/-- What is found stands before the bracket. -/
lemma eq_of_closingFrom? {t inside rest : Text} : ∀ {depth : Nat} {p : Place},
    closingFrom? depth p t = some (inside, rest) → t = inside ++ ')' :: rest := by
  induction t generalizing inside with
  | nil => exact fun h => by cases h
  | cons c t ih =>
    intro depth p h
    by_cases hstop : p = .code .outside ∧ c = ')' ∧ depth = 0
    · rw [closingFrom?, if_pos hstop] at h
      obtain ⟨rfl, rfl⟩ := Prod.mk.inj (Option.some.inj h)
      rw [hstop.2.1]
      rfl
    · rw [closingFrom?_next hstop] at h
      obtain ⟨found, hfound, heq⟩ := Option.map_eq_some_iff.mp h
      obtain ⟨rfl, rfl⟩ := Prod.mk.inj heq
      rw [ih hfound]
      rfl

/-! ### Error markers -/

/-- A text with an error marker in it. -/
def HoldsMarker (t : Text) : Prop :=
  ∃ front body back : Text, t = front ++ ("/*ERROR: " ++ (body ++ ("*/" ++ back))) ∧ '\n' ∉ body

/-- A marker is recognised where it starts. -/
lemma markerHere?_isSome {body : Text} (hbody : '\n' ∉ body) (back : Text) :
    (markerHere? ("/*ERROR: " ++ (body ++ ("*/" ++ back)))).isSome := by
  obtain ⟨before, after, hcut, hstart⟩ := cut?_append "*/" body back
  have hline : '\n' ∉ before := fun h => hbody (hstart.subset h)
  have hafter := (after?_eq_some_iff "/*ERROR: " _ (body ++ ("*/" ++ back))).mpr rfl
  rw [markerHere?, hafter, Option.bind_eq_bind, Option.bind_some, hcut, Option.bind_eq_bind,
    Option.bind_some]
  simp only [if_neg hline, Option.isSome_some]

/-- The markers of a text are found if there are any. -/
lemma HoldsMarker.markers_ne_nil {t : Text} (h : HoldsMarker t) : markers t ≠ [] := by
  obtain ⟨front, body, back, rfl, hbody⟩ := h
  unfold markers
  induction front with
  | nil =>
    obtain ⟨found, hfound⟩ := Option.isSome_iff_exists.mp (markerHere?_isSome hbody back)
    obtain ⟨rest, hrest⟩ : ∃ rest,
        ("/*ERROR: " : Text) ++ (body ++ ("*/" ++ back)) = '/' :: rest := ⟨_, rfl⟩
    rw [List.nil_append, hrest, markersFrom, ← hrest, hfound]
    exact List.cons_ne_nil _ _
  | cons c front ih =>
    rw [List.cons_append, markersFrom]
    split
    · exact List.cons_ne_nil _ _
    · exact ih

/-- A longer text holds the marker too. -/
lemma HoldsMarker.mono {t u : Text} (h : HoldsMarker t) (hstart : t <+: u) :
    HoldsMarker u := by
  obtain ⟨front, body, back, rfl, hbody⟩ := h
  obtain ⟨s, rfl⟩ := hstart
  exact ⟨front, body, back ++ s, by simp only [List.append_assoc], hbody⟩

/-- The text of a marker stays on one line. -/
lemma newline_not_mem_of_mem_markersFrom {t body : Text} : ∀ {passed : Nat},
    body ∈ markersFrom passed t → '\n' ∉ body := by
  induction t with
  | nil => exact fun h => by cases h
  | cons c t ih =>
    intro passed h
    cases passed with
    | succ k => exact ih h
    | zero =>
      rw [markersFrom] at h
      split at h
      next found hfound =>
        rcases List.mem_cons.mp h with rfl | h
        · obtain ⟨rest, -, hcut⟩ := Option.bind_eq_some_iff.mp hfound
          obtain ⟨⟨before, after⟩, -, hline⟩ := Option.bind_eq_some_iff.mp hcut
          dsimp only at hline
          split at hline
          next => cases hline
          next hnot =>
            rw [← Option.some.inj hline]
            exact hnot
        · exact ih h
      next => exact ih h

/-- **Whether the bracket is closed early** is settled when a marker is complete: what follows does
not matter any more. -/
lemma closedEarly_append {t : Text} (h : HoldsMarker t) (s : Text) :
    closedEarly (t ++ s) = closedEarly t := by
  unfold closedEarly closing?
  cases ht : closingFrom? 0 (.code .outside) t with
  | some found => rw [closingFrom?_extend s ht, Option.any_some, Option.any_some]
  | none =>
    cases hts : closingFrom? 0 (.code .outside) (t ++ s) with
    | none => rfl
    | some found =>
      have hmarkers := (h.mono (prefix_of_closingFrom? ht hts)).markers_ne_nil
      rw [Option.any_some, Option.any_none, decide_eq_false hmarkers]

/-! ### A marker by itself -/

/-- The search leaves a comment at its end only.  `star` says that an asterisk stands before the
text. -/
lemma exists_of_closingFrom?_comment {t inside rest : Text} {depth : Nat} : ∀ {star : Bool},
    closingFrom? depth (.comment star) t = some (inside, rest) →
      ∃ body back : Text, (if star then ['*'] else []) ++ inside = body ++ ("*/" ++ back) := by
  induction t generalizing inside with
  | nil => exact fun h => by cases h
  | cons c t ih =>
    intro star h
    rw [closingFrom?_next (by simp), if_neg (by simp)] at h
    obtain ⟨⟨found, after⟩, hfound, heq⟩ := Option.map_eq_some_iff.mp h
    obtain ⟨rfl, rfl⟩ := Prod.mk.inj heq
    by_cases hend : star = true ∧ c = '/'
    · obtain ⟨rfl, rfl⟩ := hend
      exact ⟨[], found, rfl⟩
    · rw [Place.step, if_neg hend] at hfound
      obtain ⟨body, back, hbody⟩ := ih hfound
      by_cases hc : c = '*'
      · -- the asterisk belongs to the end of the comment, or to its text
        subst hc
        exact ⟨(if star then ['*'] else []) ++ body, back, by simpa using hbody⟩
      · refine ⟨(if star then ['*'] else []) ++ c :: body, back, ?_⟩
        have hfound' : found = body ++ ("*/" ++ back) := by simpa [hc] using hbody
        rw [hfound', List.append_assoc]
        rfl

/-- The search goes through the head of a marker into the comment. -/
lemma closing?_marker (t : Text) :
    closing? ("/*ERROR: " ++ t) = (closingFrom? 0 (.comment false) t).map fun found =>
      (("/*ERROR: " : Text) ++ found.1, found.2) := by
  show closingFrom? 0 (.code .outside)
    ('/' :: '*' :: 'E' :: 'R' :: 'R' :: 'O' :: 'R' :: ':' :: ' ' :: t) = _
  simp [closingFrom?, Place.step, startsWith, after?, depthAfter, Function.comp_def]

/-- **A marker does not close the bracket by itself**, whatever its text is: a bracket in it counts
only behind an end of the comment, where the marker is complete. -/
lemma closedEarly_marker {body : Text} (hbody : '\n' ∉ body) :
    closedEarly ("/*ERROR: " ++ (body ++ "*/")) = false := by
  unfold closedEarly
  rw [closing?_marker]
  cases hclosing : closingFrom? 0 (.comment false) (body ++ "*/") with
  | none => rfl
  | some found =>
    obtain ⟨inside, rest⟩ := found
    obtain ⟨text, back, htext⟩ := exists_of_closingFrom?_comment hclosing
    have hsubset : text ⊆ body ++ "*/" := by
      rw [eq_of_closingFrom? hclosing]
      intro c hc
      simp_all
    have hline : '\n' ∉ text := by
      intro hmem
      have hwhole := hsubset hmem
      simp_all
    have hmarkers : HoldsMarker ("/*ERROR: " ++ inside) := ⟨[], text, back, by simp_all, hline⟩
    rw [Option.map_some, Option.any_some, decide_eq_false hmarkers.markers_ne_nil]

/-! ### Processing -/

/-- A comment above comments. -/
lemma forall_lines_comment {s t : Text} (hs : '\n' ∉ s)
    (ht : ∀ line ∈ lines t, ("//" : Text) <+: line) :
    ∀ line ∈ lines ("//" ++ s ++ '\n' :: t), ("//" : Text) <+: line := by
  have hfirst : '\n' ∉ ("//" : Text) ++ s := List.not_mem_append (by decide) hs
  rw [lines_append_newline hfirst]
  exact List.forall_mem_cons.mpr ⟨prefix_dropReturn (by decide) s, ht⟩

/-- Lines that are put in comments, one below the other. -/
lemma forall_lines_join : ∀ {plain : List Text}, (∀ line ∈ plain, '\n' ∉ line) →
    ∀ line ∈ lines (join ['\n'] (plain.map fun line => "//" ++ line)), ("//" : Text) <+: line
  | [], _, line, h => by cases h
  | [last], hplain, line, h => by
    have hlast : '\n' ∉ ("//" : Text) ++ last :=
      List.not_mem_append (by decide) (hplain last (List.mem_singleton_self last))
    have hjoin : join ['\n'] ([last].map fun line => ("//" : Text) ++ line) = "//" ++ last := by
      simp [join]
    rw [hjoin, lines_of_not_mem hlast (List.append_ne_nil_of_left_ne_nil (by decide) last)] at h
    rw [List.mem_singleton.mp h]
    exact List.prefix_append _ last
  | first :: next :: plain, hplain, line, h => by
    have hjoin : join ['\n'] ((first :: next :: plain).map fun line => ("//" : Text) ++ line) =
        "//" ++ first ++ '\n' :: join ['\n'] ((next :: plain).map fun line => "//" ++ line) := by
      simp [join]
    rw [hjoin] at h
    exact forall_lines_comment (hplain first List.mem_cons_self)
      (forall_lines_join fun line hline => hplain line (List.mem_cons_of_mem first hline)) line h

/-- All lines of code that is commented out are comments. -/
lemma forall_lines_commentOut (code : Text) {marked : List Text}
    (h : ∀ body ∈ marked, '\n' ∉ body) :
    ∀ line ∈ lines (commentOut code marked), ("//" : Text) <+: line := by
  unfold commentOut
  induction marked with
  | nil => exact forall_lines_join fun line hline => newline_not_mem_of_mem_lines hline
  | cons body more ih =>
    have hbody : '\n' ∉ ("TODO: " : Text) ++ body :=
      List.not_mem_append (by decide) (h body List.mem_cons_self)
    have hline : todoLine body = "//" ++ ("TODO: " ++ body) ++ ['\n'] := rfl
    rw [List.flatMap_cons, hline, List.append_assoc, List.append_assoc _ ['\n']]
    exact forall_lines_comment hbody (ih fun text htext => h text (List.mem_cons_of_mem body htext))

/-- Code that starts with the bracket of a condition is not flagged. -/
lemma not_flagged_if (t : Text) : ¬ Flagged ("if(" ++ t) := by
  rintro (hlines | ⟨rest, hrest⟩)
  · have hfirst : ∃ line ∈ lines ("if(" ++ t), ("if(" : Text) <+: line :=
      exists_mem_lines (by decide) (by decide) (by decide) t
    obtain ⟨line, hmem, s, rfl⟩ := hfirst
    obtain ⟨rest, hrest⟩ := hlines _ hmem
    cases hrest
  · cases hrest

/-- **Processing flags a unit unless its bracket is closed early.** -/
lemma flagged_process_iff (k : Knowledge) (body : Text) :
    Flagged (process k ("if(" ++ body)).code ↔ closedEarly body = false := by
  have hopened : opened? ("if(" ++ body) = some (("if(" : Text), body) :=
    (opened?_eq_some_iff _ _ _).mpr ⟨[], by simp, rfl, rfl⟩
  unfold closedEarly
  cases hclosing : closing? body with
  | none =>
    have hcode : (process k ("if(" ++ body)).code = reviewMarker ++ "\n" ++ ("if(" ++ body) := by
      rw [process, hopened]
      dsimp only
      rw [hclosing]
    rw [hcode]
    exact iff_of_true (Or.inr (List.prefix_append _ _)) rfl
  | some found =>
    obtain ⟨condition, rest⟩ := found
    rw [Option.any_some, decide_eq_false_iff_not]
    cases hmarkers : markers condition with
    | nil =>
      rw [process_of_condition k hopened hclosing hmarkers]
      refine iff_of_false ?_ (fun h => h rfl)
      rw [List.append_assoc, List.append_assoc]
      exact not_flagged_if _
    | cons marker more =>
      have hcode : (process k ("if(" ++ body)).code =
          commentOut ("if(" ++ body) (marker :: more) := by
        rw [process, hopened]
        dsimp only
        rw [hclosing]
        dsimp only
        rw [hmarkers]
      rw [hcode]
      refine iff_of_true (.inl (forall_lines_commentOut _ fun text htext => ?_))
        (List.cons_ne_nil _ _)
      rw [← hmarkers] at htext
      exact newline_not_mem_of_mem_markersFrom htext

end RuleSheet.Guard
