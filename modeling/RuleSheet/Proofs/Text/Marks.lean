import RuleSheet.Proofs.Text.Cuts

/-!
# Marks in texts

Where a mark stands, and what that says about the cuts at it.

## Main results

* `RuleSheet.Text.after?_append_eq_none` — a mark that the start of a text does not have.
* `RuleSheet.Text.cutBy?_eq_some_iff`, `cutBy?_eq_none_iff` — the first character of a class.
* `RuleSheet.Text.cutLast?_eq_some_iff`, `cutLast?_append_mark` — the last place of a mark.
* `RuleSheet.Text.contains_iff`, `contains_surround` — marks inside a text.
-/

set_option autoImplicit false

namespace RuleSheet.Text

variable {mark t : Text}

/-- What has no character of a mark does not complete it. -/
lemma after?_append_eq_none (h : after? mark t = none) {u : Text} (hu : ∀ c ∈ mark, c ∉ u) :
    after? mark (t ++ u) = none := by
  refine Option.eq_none_iff_forall_ne_some.mpr fun rest hrest => ?_
  rw [after?_eq_some_iff] at hrest
  rcases List.append_eq_append_iff.mp hrest with ⟨x, hmark, hu'⟩ | ⟨x, ht, -⟩
  · cases x with
    | nil =>
      rw [List.append_nil] at hmark
      rw [hmark, (after?_eq_some_iff t t []).mpr (List.append_nil t).symm] at h
      cases h
    | cons c x => exact hu c (by simp [hmark]) (by simp [hu'])
  · rw [(after?_eq_some_iff mark t x).mpr ht] at h
    cases h

/-- A text is cut at the first character of a class. -/
lemma cutBy?_eq_some_iff (p : Char → Bool) (t before after : Text) (d : Char) :
    cutBy? p t = some (before, d, after) ↔
      t = before ++ d :: after ∧ (∀ c ∈ before, p c = false) ∧ p d = true := by
  constructor
  · intro h
    refine ⟨eq_of_cutBy? h, ?_⟩
    induction t generalizing before with
    | nil => cases h
    | cons c t ih =>
      rw [cutBy?] at h
      split at h
      next hc =>
        obtain ⟨rfl, rfl, rfl⟩ := by simpa using h
        exact ⟨by simp, hc⟩
      next hc =>
        obtain ⟨⟨before', d', after'⟩, hcut, heq⟩ := Option.map_eq_some_iff.mp h
        obtain ⟨rfl, rfl, rfl⟩ := by simpa using heq
        obtain ⟨hbefore, hd⟩ := ih before' hcut
        exact ⟨List.forall_mem_cons.mpr ⟨by simpa using hc, hbefore⟩, hd⟩
  · rintro ⟨rfl, hbefore, hd⟩
    induction before with
    | nil => simp [cutBy?, hd]
    | cons c before ih =>
      rw [List.forall_mem_cons] at hbefore
      simp [cutBy?, hbefore.1, ih hbefore.2]

/-- The first character of a class stays the first. -/
lemma cutBy?_append {p : Char → Bool} {before after : Text} {d : Char}
    (h : cutBy? p t = some (before, d, after)) (u : Text) :
    cutBy? p (t ++ u) = some (before, d, after ++ u) := by
  rw [cutBy?_eq_some_iff] at h ⊢
  obtain ⟨rfl, hbefore⟩ := h
  exact ⟨by simp, hbefore⟩

/-- A text without characters of a class is not cut at one. -/
lemma cutBy?_eq_none_iff (p : Char → Bool) (t : Text) :
    cutBy? p t = none ↔ ∀ c ∈ t, p c = false := by
  induction t with
  | nil => simp [cutBy?]
  | cons c t ih =>
    rw [cutBy?]
    cases hc : p c <;> simp [hc, ih]

/-- The last place of a character in a text. -/
lemma exists_last {c : Char} {t : Text} (h : c ∈ t) :
    ∃ front back, t = front ++ c :: back ∧ c ∉ back := by
  obtain ⟨back, front, hreverse, hback⟩ := List.eq_append_cons_of_mem (List.mem_reverse.mpr h)
  refine ⟨front.reverse, back.reverse, ?_, by simpa using hback⟩
  rw [← List.reverse_reverse t, hreverse]
  simp

/-- A mark of one character is the last one if it does not stand behind itself. -/
lemma cutLast?_of_not_mem {c : Char} {back : Text} (h : c ∉ back) (front : Text) :
    cutLast? [c] (front ++ c :: back) = some (front, back) := by
  have hcut : ∀ s : Text, c ∉ s → cut? [c] (s ++ c :: front.reverse) = some (s, front.reverse) := by
    intro s hs
    induction s with
    | nil => simp [cut?, after?]
    | cons d s ih =>
      rw [List.mem_cons, not_or] at hs
      simp [cut?, after?, hs.1, ih hs.2]
  have hreverse : (front ++ c :: back).reverse = back.reverse ++ c :: front.reverse := by simp
  rw [cutLast?, List.reverse_singleton, hreverse, hcut back.reverse (by simpa using h)]
  simp

/-- A text is cut at the last place of a character. -/
lemma cutLast?_eq_some_iff (c : Char) (t before after : Text) :
    cutLast? [c] t = some (before, after) ↔ t = before ++ c :: after ∧ c ∉ after := by
  constructor
  · intro h
    have ht : t = before ++ c :: after := by simpa using eq_of_cutLast? h
    obtain ⟨front, back, hlast, hback⟩ := exists_last (c := c) (t := t) (by simp [ht])
    rw [hlast, cutLast?_of_not_mem hback] at h
    obtain ⟨rfl, rfl⟩ := Prod.mk.inj (Option.some.inj h)
    exact ⟨hlast, hback⟩
  · rintro ⟨rfl, hafter⟩
    exact cutLast?_of_not_mem hafter before

/-- A mark at the end of a text is the last one. -/
lemma cutLast?_append_mark (mark t : Text) : cutLast? mark (t ++ mark) = some (t, []) := by
  have hfirst : ∀ s : Text, cut? mark.reverse (mark.reverse ++ s) = some ([], s) := by
    intro s
    have hafter : after? mark.reverse (mark.reverse ++ s) = some s :=
      (after?_eq_some_iff _ _ _).mpr rfl
    cases hwhole : mark.reverse ++ s with
    | nil =>
      obtain ⟨hmark, rfl⟩ := List.append_eq_nil_iff.mp hwhole
      rw [cut?, if_pos hmark]
    | cons c rest => rw [cut?, ← hwhole, hafter]
  rw [cutLast?, List.reverse_append, hfirst]
  simp

/-- The text holds a mark that it can be cut at. -/
lemma contains_iff (t mark : Text) : contains t mark = true ↔ mark <:+: t := by
  constructor
  · intro h
    obtain ⟨⟨before, after⟩, hcut⟩ := Option.isSome_iff_exists.mp h
    exact ⟨before, after, (eq_of_cut? hcut).symm⟩
  · rintro ⟨before, after, rfl⟩
    obtain ⟨front, back, hcut, -⟩ := cut?_append mark before after
    rw [contains, List.append_assoc, hcut]
    rfl

/-- A mark stands in a text, and not in what surrounds it without a character of the mark. -/
lemma contains_surround {u v : Text} (hne : mark ≠ []) (hu : ∀ c ∈ u, c ∉ mark)
    (hv : ∀ c ∈ v, c ∉ mark) (t : Text) : contains (u ++ t ++ v) mark = contains t mark := by
  have hnil : ¬ mark <:+: [] := fun h => hne (List.infix_nil.mp h)
  have hbehind : mark <:+: t ++ v ↔ mark <:+: t := by
    cases v with
    | nil => rw [List.append_nil]
    | cons d v =>
      have hnot : ¬ mark <:+: v := by
        obtain ⟨c, more, rfl⟩ := List.exists_cons_of_ne_nil hne
        intro h
        exact hv c (List.mem_cons_of_mem d (h.subset List.mem_cons_self)) List.mem_cons_self
      rw [infix_append_cons_iff (hv d List.mem_cons_self), or_iff_left hnot]
  have hbefore : mark <:+: u ++ (t ++ v) ↔ mark <:+: t ++ v := by
    induction u with
    | nil => rfl
    | cons d u ih =>
      rw [List.cons_append, ← List.nil_append (d :: _),
        infix_append_cons_iff (hu d List.mem_cons_self), or_iff_right hnil,
        ih fun c hc => hu c (List.mem_cons_of_mem d hc)]
  rw [Bool.eq_iff_iff, contains_iff, contains_iff, List.append_assoc, hbefore, hbehind]

end RuleSheet.Text
