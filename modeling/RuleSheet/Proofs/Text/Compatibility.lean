import Mathlib.Data.List.Basic
import Mathlib.Tactic.Lemma
import RuleSheet.Text.Compatibility

/-!
# Where compatibility normal forms come apart

The normal form of a text is not made of the normal forms of its parts: marks at the start of a part
are sorted among the marks before them, and join the base character before them.  It is, if the
second part begins with a base character that joins nothing before it.  Such a character stops the
marks that move, and the composition starts anew with it.

## Main definitions

* `RuleSheet.Text.compositions` — all pairs of the tables with their composed forms.
* `RuleSheet.Text.joinsBack` — the characters that can join a character before them.
* `RuleSheet.Text.beginsGroup` — the base characters that join nothing before them.

## Main results

* `RuleSheet.Text.composePair?_cases` — every pair that is composed is one of Hangul or of the
  tables.
* `RuleSheet.Text.reorder_append`, `compose_append` — the two steps before and after such a
  character.
* `RuleSheet.Text.compatible_append` — the normal form of two parts.
* `RuleSheet.Text.composeFrom_eq_cons` — a base character that takes no mark.
-/

set_option autoImplicit false

namespace RuleSheet.Text

/-! ### Pairs -/

/-- All pairs of the tables with their composed forms. -/
def compositions : List (Nat × Nat × Nat) :=
  compositionsLatin ++ compositionsLetters ++ compositionsRest

/-- What a table gives stands in it. -/
lemma mem_of_compositionIn {a b z : Nat} {table : List (Nat × Nat × Nat)}
    (h : compositionIn a b table = some z) : (a, b, z) ∈ table := by
  induction table with
  | nil => cases h
  | cons entry table ih =>
    obtain ⟨x, y, w⟩ := entry
    rw [compositionIn] at h
    split at h
    next => cases h
    next =>
      split at h
      next heq =>
        obtain ⟨rfl, rfl⟩ := heq
        obtain rfl := Option.some.inj h
        exact List.mem_cons_self
      next => exact List.mem_cons_of_mem _ (ih h)

lemma mem_compositions {a b z : Nat} (h : compositionOf? a b = some z) :
    (a, b, z) ∈ compositions := by
  unfold compositionOf? at h
  simp only [compositions, List.mem_append]
  split at h
  next => exact .inl (.inl (mem_of_compositionIn h))
  next =>
    split at h
    next => exact .inl (.inr (mem_of_compositionIn h))
    next => exact .inr (mem_of_compositionIn h)

/-- The leading consonants and the syllables of Hangul can take a vowel or a trailing consonant. -/
def isHangulBase (n : Nat) : Bool := (leadBase ≤ n && n < leadBase + leadCount) || isSyllable n

/-- The vowels and the trailing consonants of Hangul. -/
def isHangulTail (n : Nat) : Bool :=
  (vowelBase ≤ n && n < vowelBase + vowelCount) || (trailBase < n && n < trailBase + trailCount)

/-- A syllable is composed of a base and a tail. -/
lemma of_composeSyllable? {a b n : Nat} (h : composeSyllable? a b = some n) :
    isHangulBase a = true ∧ isHangulTail b = true := by
  unfold composeSyllable? at h
  split at h
  next hvowel => simp [isHangulBase, isHangulTail, hvowel]
  next =>
    split at h
    next htrail => simp [isHangulBase, isHangulTail, htrail]
    next => cases h

/-- **A pair that is composed** is one of Hangul or of the tables. -/
lemma composePair?_cases {a b joined : Char} (h : composePair? a b = some joined) :
    isHangulBase a.toNat = true ∧ isHangulTail b.toNat = true ∨
      ∃ n, (a.toNat, b.toNat, n) ∈ compositions ∧ joined = Char.ofNat n := by
  rw [composePair?, Option.orElse_eq_orElse, Option.orElse_eq_or] at h
  obtain ⟨n, hn, rfl⟩ := Option.map_eq_some_iff.mp h
  rcases Option.or_eq_some_iff.mp hn with hsyllable | ⟨-, hpair⟩
  · exact .inl (of_composeSyllable? hsyllable)
  · exact .inr ⟨n, mem_compositions hpair, rfl⟩

/-- The characters that can join a character before them. -/
def joinsBack (c : Char) : Bool :=
  isHangulTail c.toNat || compositions.any fun (_, second, _) => second = c.toNat

/-- The base characters that join nothing before them. -/
def beginsGroup (c : Char) : Bool := combiningClass c = 0 && !joinsBack c

section BeginsGroup

variable {c : Char}

lemma combiningClass_of_beginsGroup (h : beginsGroup c = true) : combiningClass c = 0 := by
  simp only [beginsGroup, Bool.and_eq_true, decide_eq_true_eq] at h
  exact h.1

lemma composePair?_of_beginsGroup (h : beginsGroup c = true) (base : Char) :
    composePair? base c = none := by
  simp only [beginsGroup, joinsBack, Bool.and_eq_true, Bool.not_eq_true', Bool.or_eq_false_iff,
    List.any_eq_false, decide_eq_true_eq] at h
  obtain ⟨-, htail, hsecond⟩ := h
  refine Option.eq_none_iff_forall_ne_some.mpr fun joined hjoined => ?_
  rcases composePair?_cases hjoined with ⟨-, hhangul⟩ | ⟨n, hmem, -⟩
  · rw [htail] at hhangul
    cases hhangul
  · exact hsecond _ hmem rfl

end BeginsGroup

/-! ### Before and after a character -/

section Apart

variable {c : Char} {s t : Text}

/-- A base character stays in front. -/
lemma insertMark_of_base (hc : combiningClass c = 0) (t : Text) : insertMark c t = c :: t := by
  cases t with
  | nil => rfl
  | cons d t => simp [insertMark, hc]

/-- No mark moves behind a base character. -/
lemma insertMark_append (hc : combiningClass c = 0) (mark : Char) (s t : Text) :
    insertMark mark (s ++ c :: t) = insertMark mark s ++ c :: t := by
  induction s with
  | nil => simp [insertMark, hc]
  | cons d s ih =>
    rw [List.cons_append, insertMark, insertMark, ih]
    split
    · rfl
    · rfl

/-- **The marks before and after a base character are sorted apart.** -/
lemma reorder_append (hc : combiningClass c = 0) (s t : Text) :
    reorder (s ++ c :: t) = reorder s ++ c :: reorder t := by
  induction s with
  | nil => exact insertMark_of_base hc (reorder t)
  | cons d s ih => rw [List.cons_append, reorder, reorder, ih, insertMark_append hc]

/-- A composition ends at a base character that joins nothing before it. -/
lemma composeFrom_append (hc : beginsGroup c = true) (base : Char) (passed : Text) (blocked : Nat)
    (s t : Text) :
    composeFrom base passed blocked (s ++ c :: t) =
      composeFrom base passed blocked s ++ composeFrom c [] 0 t := by
  have hclass := combiningClass_of_beginsGroup hc
  induction s generalizing base passed blocked with
  | nil => simp [composeFrom, composePair?_of_beginsGroup hc, hclass]
  | cons d s ih =>
    rw [List.cons_append, composeFrom, composeFrom]
    split
    next => exact ih _ _ _
    next =>
      split
      · simp [ih]
      · exact ih _ _ _

/-- **What stands before and after such a character is composed apart.** -/
lemma compose_append (hc : beginsGroup c = true) (s t : Text) :
    compose (s ++ c :: t) = compose s ++ compose (c :: t) := by
  have hrest : compose (c :: t) = composeFrom c [] 0 t := by
    rw [compose, if_pos (combiningClass_of_beginsGroup hc)]
  induction s with
  | nil => rfl
  | cons d s ih =>
    rw [List.cons_append, compose, compose]
    split
    · rw [composeFrom_append hc, hrest]
    · rw [ih, List.cons_append]

/-- **The normal form of two parts** is made of their normal forms if the second one begins with a
base character that joins nothing before it, or decomposes to nothing. -/
lemma compatible_append (h : ∀ e ∈ (decompose t).head?, beginsGroup e = true) :
    compatible (s ++ t) = compatible s ++ compatible t := by
  have hdecompose : decompose (s ++ t) = decompose s ++ decompose t := List.flatMap_append
  rw [compatible, compatible, compatible, hdecompose]
  cases hparts : decompose t with
  | nil => simp [reorder, compose]
  | cons e rest =>
    have he : beginsGroup e = true := h e (by simp [hparts])
    have hclass := combiningClass_of_beginsGroup he
    rw [reorder_append hclass, compose_append he, reorder, insertMark_of_base hclass]

end Apart

/-! ### Base characters that take no mark -/

/-- Once a mark has passed, a base character that takes marks of the lowest class only takes
none. -/
lemma composeFrom_of_passed {c : Char}
    (hlow : ∀ d joined, composePair? c d = some joined → combiningClass d ≤ 1) (t : Text) :
    ∀ {passed : Text} {blocked : Nat}, passed ≠ [] → 0 < blocked →
      composeFrom c passed blocked t = c :: passed.reverse ++ compose t := by
  induction t with
  | nil =>
    intro passed blocked _ _
    simp [composeFrom, compose]
  | cons d t ih =>
    intro passed blocked hpassed hblocked
    have hnone : (if passed.isEmpty || decide (blocked < combiningClass d) then composePair? c d
        else none) = none := by
      split
      next hfree =>
        refine Option.eq_none_iff_forall_ne_some.mpr fun joined hjoined => ?_
        have hclass := hlow d joined hjoined
        simp only [List.isEmpty_iff, Bool.or_eq_true, hpassed, false_or, decide_eq_true_eq] at hfree
        omega
      next => rfl
    rw [composeFrom, hnone, compose]
    dsimp only
    split
    next => rfl
    next hmark =>
      rw [ih (List.cons_ne_nil d passed) (Nat.pos_of_ne_zero hmark)]
      simp

/-- **A base character that takes no mark.**  It is one that does not join the character behind it,
and joins marks of the lowest class only: the first mark behind it is in the way of all others. -/
lemma composeFrom_eq_cons {c : Char}
    (hlow : ∀ d joined, composePair? c d = some joined → combiningClass d ≤ 1) {t : Text}
    (hnext : ∀ d ∈ t.head?, composePair? c d = none) : composeFrom c [] 0 t = c :: compose t := by
  cases t with
  | nil => rfl
  | cons d t =>
    have hnone : composePair? c d = none := hnext d (by simp)
    rw [composeFrom, compose]
    simp only [List.isEmpty_nil, Bool.true_or, if_true, hnone]
    split
    next => rfl
    next hmark =>
      exact composeFrom_of_passed hlow t (List.cons_ne_nil d []) (Nat.pos_of_ne_zero hmark)

end RuleSheet.Text
