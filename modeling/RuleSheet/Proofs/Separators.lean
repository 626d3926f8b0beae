import RuleSheet.Label
import RuleSheet.Proofs.Text.Compatibility

/-!
# Separators in labels

The key of a label drops its separators, but not all at the same time: markers go before the widths
are unified, all other separators afterwards.  A separator that is still there while characters are
joined keeps its two sides apart.  So the key of a label with such a separator in it is made of the
keys of its sides, and a mark behind it is not joined to the character in front of it.  The signs
`<`, `=` and `>` moreover take a stroke that stands behind them, and are then no separators any
more.

## Main definitions

* `RuleSheet.Label.lateSeparators` — the separators that are no markers.
* `RuleSheet.Label.spare` — a label without markers, its digits folded.
* `RuleSheet.Label.keyBehind` — what a key has from the text behind such a separator.
* `RuleSheet.Label.BeginsAnew` — a text that joins nothing in front of it.

## Main results

* `RuleSheet.Label.key_append_of_beginsAnew` — the key of two parts that do not join.
* `RuleSheet.Label.key_separator` — the key of a label with a separator in it.
* `RuleSheet.Label.key_insert_separator_iff` — when a separator makes no difference.
-/

set_option autoImplicit false

namespace RuleSheet.Label

open Text

/-! ### The separators that are dropped last -/

/-- The separators that are no markers. -/
def lateSeparators : List Char := "!#$%&'()+,-:;<=>?@\\^_`\x7b|\x7d~‐‑‒–—―−".toList

/-- The stroke that goes through the sign in front of it. -/
def stroke : Char := Char.ofNat 0x338

/-- A sign with a stroke through it. -/
def struck? (c : Char) : Option Char :=
  if c = '<' then some '≮' else if c = '=' then some '≠' else if c = '>' then some '≯' else none

lemma isMarker_of_isBlank {c : Char} (h : isBlank c = true) : isMarker c = true := by
  simp [isMarker, h]

/-- A separator that is no marker is one of those listed. -/
lemma mem_lateSeparators {c : Char} (hc : isSeparator c = true) (hmarker : isMarker c = false) :
    c ∈ lateSeparators := by
  have hlisted : ((List.range 0x7F ++ List.range' 0x2010 6 ++ [0x2212]).all fun n =>
      !isSeparator (Char.ofNat n) || isMarker (Char.ofNat n) ||
        lateSeparators.elem (Char.ofNat n)) = true := by decide
  have hcode : c.toNat ∈ List.range 0x7F ++ List.range' 0x2010 6 ++ [0x2212] := by
    have hblank : isBlank c = false :=
      Bool.eq_false_iff.mpr fun h => by simp [isMarker_of_isBlank h] at hmarker
    simp only [isSeparator, isAsciiPunctuation, hblank, Bool.false_or, Bool.or_eq_true,
      Bool.and_eq_true, decide_eq_true_eq] at hc
    simp only [List.mem_append, List.mem_range, List.mem_range'_1, List.mem_singleton]
    omega
  have hlate := List.all_eq_true.mp hlisted _ hcode
  rw [Char.ofNat_toNat, hc, hmarker] at hlate
  simpa using hlate

/-- No separator joins the character in front of it, and the only character that joins a separator
is the stroke. -/
lemma compositions_separator : compositions.all (fun entry =>
    !isSeparator (Char.ofNat entry.2.1) && (!isSeparator (Char.ofNat entry.1) ||
      (entry.2.1 = 0x338 &&
        struck? (Char.ofNat entry.1) = some (Char.ofNat entry.2.2)))) = true := by
  decide +kernel

/-- A sign with a stroke takes nothing more. -/
lemma compositions_struck : compositions.all (fun entry =>
    entry.1 ≠ '≮'.toNat && entry.1 ≠ '≠'.toNat && entry.1 ≠ '≯'.toNat) = true := by
  decide +kernel

/-- A separator that is no marker is still one base character, and a separator, when the widths are
unified. -/
lemma decomposeChar_lateSeparators : lateSeparators.all (fun c => foldDigit c = c &&
    (decomposeChar c).length = 1 && (decomposeChar c).all fun e => isSeparator e &&
      combiningClass e = 0 && !isHangulBase e.toNat && !isHangulTail e.toNat &&
      struck? e = struck? c) = true := by
  decide +kernel

/-- The stroke is a mark of the lowest class. -/
lemma combiningClass_stroke : combiningClass stroke = 1 := by decide

/-- A separator joins nothing in front of it. -/
lemma beginsGroup_separator {e : Char} (he : isSeparator e = true) (hclass : combiningClass e = 0)
    (htail : isHangulTail e.toNat = false) : beginsGroup e = true := by
  have hjoins : joinsBack e = false := by
    rw [joinsBack, htail, Bool.false_or]
    refine List.any_eq_false.mpr fun entry hentry hsame => ?_
    have hnone := List.all_eq_true.mp compositions_separator entry hentry
    rw [decide_eq_true_eq] at hsame
    simp [hsame, he] at hnone
  simp [beginsGroup, hclass, hjoins]

/-- What a separator that is no marker becomes when the widths are unified. -/
lemma exists_decomposeChar {c : Char} (hc : isSeparator c = true) (hmarker : isMarker c = false) :
    ∃ e, decomposeChar c = [e] ∧ foldDigit c = c ∧ isSeparator e = true ∧ beginsGroup e = true ∧
      isHangulBase e.toNat = false ∧ struck? e = struck? c := by
  have hfacts := List.all_eq_true.mp decomposeChar_lateSeparators c (mem_lateSeparators hc hmarker)
  simp only [Bool.and_eq_true, decide_eq_true_eq, List.all_eq_true, Bool.not_eq_true'] at hfacts
  obtain ⟨⟨hfold, hlength⟩, hall⟩ := hfacts
  obtain ⟨e, he⟩ := List.length_eq_one_iff.mp hlength
  obtain ⟨⟨⟨⟨hseparator, hclass⟩, hbase⟩, htail⟩, hstruck⟩ := hall e (by simp [he])
  exact ⟨e, he, hfold, hseparator, beginsGroup_separator hseparator hclass htail, hbase, hstruck⟩

/-- Nothing but the stroke joins a separator. -/
lemma of_composePair?_separator {e d joined : Char} (he : isSeparator e = true)
    (hbase : isHangulBase e.toNat = false) (h : composePair? e d = some joined) :
    d = stroke ∧ struck? e = some joined := by
  rcases composePair?_cases h with ⟨hhangul, -⟩ | ⟨n, hmem, rfl⟩
  · rw [hbase] at hhangul
    cases hhangul
  · have hentry := List.all_eq_true.mp compositions_separator _ hmem
    simp only [Char.ofNat_toNat, he, Bool.not_true, Bool.false_or, Bool.and_eq_true,
      decide_eq_true_eq] at hentry
    refine ⟨Char.toNat_inj.mp (hentry.2.1.trans ?_), hentry.2.2⟩
    decide

/-- The signs that a stroke goes through. -/
lemma of_struck? {e sign : Char} (h : struck? e = some sign) :
    e = '<' ∧ sign = '≮' ∨ e = '=' ∧ sign = '≠' ∨ e = '>' ∧ sign = '≯' := by
  unfold struck? at h
  split at h
  next he => exact .inl ⟨he, (Option.some.inj h).symm⟩
  next =>
    split at h
    next he => exact .inr (.inl ⟨he, (Option.some.inj h).symm⟩)
    next =>
      split at h
      next he => exact .inr (.inr ⟨he, (Option.some.inj h).symm⟩)
      next => cases h

/-- **The stroke goes through the signs of comparison.**  Then they are no separators, and take
nothing more. -/
lemma composePair?_stroke {e sign : Char} (h : struck? e = some sign) :
    composePair? e stroke = some sign ∧ isSeparator sign = false ∧
      ∀ d, composePair? sign d = none := by
  obtain ⟨hpair, hseparator, hbase⟩ : composePair? e stroke = some sign ∧ isSeparator sign = false ∧
      isHangulBase sign.toNat = false := by
    rcases of_struck? h with ⟨rfl, rfl⟩ | ⟨rfl, rfl⟩ | ⟨rfl, rfl⟩ <;> decide
  refine ⟨hpair, hseparator, fun d =>
    Option.eq_none_iff_forall_ne_some.mpr fun joined hjoined => ?_⟩
  rcases composePair?_cases hjoined with ⟨hhangul, -⟩ | ⟨n, hmem, -⟩
  · rw [hbase] at hhangul
    cases hhangul
  · have hentry := List.all_eq_true.mp compositions_struck _ hmem
    rcases of_struck? h with ⟨-, rfl⟩ | ⟨-, rfl⟩ | ⟨-, rfl⟩ <;> simp at hentry

/-! ### Keys of parts -/

/-- A label without markers, its digits folded. -/
def spare (label : Text) : Text := foldDigits (label.filter fun c => !isMarker c)

lemma key_eq (label : Text) :
    key label = (compatible (spare label)).filter fun c => !isSeparator c := rfl

lemma spare_append (a b : Text) : spare (a ++ b) = spare a ++ spare b := by
  simp [spare, foldDigits]

/-- A text that joins nothing in front of it: it starts with a base character that does not, or
there is nothing in it but markers. -/
def BeginsAnew (b : Text) : Prop := ∀ e ∈ (decompose (spare b)).head?, beginsGroup e = true

/-- **The key of two parts that do not join.** -/
lemma key_append_of_beginsAnew (a : Text) {b : Text} (h : BeginsAnew b) :
    key (a ++ b) = key a ++ key b := by
  rw [key_eq, key_eq, key_eq, spare_append, compatible_append h, List.filter_append]

/-- What a key has from the text behind a separator that is no marker.  A stroke at its start goes
through a sign of comparison. -/
def keyBehind (c : Char) (b : Text) : Text :=
  match struck? c with
  | none => key b
  | some sign =>
    if (reorder (decompose (spare b))).head? = some stroke then sign :: (key b).tail else key b

section Late

variable {c : Char} {b : Text}

/-- A text that starts with a separator that is no marker. -/
lemma exists_decompose (hc : isSeparator c = true) (hmarker : isMarker c = false) (b : Text) :
    ∃ e, decompose (spare (c :: b)) = e :: decompose (spare b) ∧ isSeparator e = true ∧
      beginsGroup e = true ∧ isHangulBase e.toNat = false ∧ struck? e = struck? c := by
  obtain ⟨e, he, hfold, hfacts⟩ := exists_decomposeChar hc hmarker
  have hspare : spare (c :: b) = c :: spare b := by simp [spare, hmarker, foldDigits, hfold]
  refine ⟨e, ?_, hfacts⟩
  rw [hspare, decompose, List.flatMap_cons, he]
  rfl

/-- It joins nothing in front of it. -/
lemma beginsAnew_separator (hc : isSeparator c = true) (hmarker : isMarker c = false) (b : Text) :
    BeginsAnew (c :: b) := by
  obtain ⟨e, he, -, hbegins, -⟩ := exists_decompose hc hmarker b
  intro d hd
  obtain rfl : e = d := by simpa [he] using hd
  exact hbegins

/-- The key of such a text.

**Proof sketch.** The separator is a base character.  If it does not take the character behind it,
it takes none at all, and is dropped.  What it can take is the stroke; then there is a sign with a
stroke in its place, which takes nothing more and is kept. -/
lemma key_cons_separator (hc : isSeparator c = true) (hmarker : isMarker c = false) (b : Text) :
    key (c :: b) = keyBehind c b := by
  obtain ⟨e, he, hseparator, hbegins, hbase, hstruck⟩ := exists_decompose hc hmarker b
  have hclass := combiningClass_of_beginsGroup hbegins
  have hcompatible :
      compatible (spare (c :: b)) = composeFrom e [] 0 (reorder (decompose (spare b))) := by
    rw [compatible, he, reorder, insertMark_of_base hclass, compose, if_pos hclass]
  have hlow (d joined : Char) (h : composePair? e d = some joined) : combiningClass d ≤ 1 := by
    obtain ⟨rfl, -⟩ := of_composePair?_separator hseparator hbase h
    exact Nat.le_of_eq combiningClass_stroke
  -- without a stroke to take, the separator is dropped
  have hdropped (hnext : ∀ d ∈ (reorder (decompose (spare b))).head?, composePair? e d = none) :
      key (c :: b) = key b := by
    rw [key_eq, hcompatible, composeFrom_eq_cons hlow hnext,
      List.filter_cons_of_neg (by simp [hseparator])]
    rfl
  unfold keyBehind
  rw [← hstruck]
  cases hsign : struck? e with
  | none =>
    refine hdropped fun d _ => Option.eq_none_iff_forall_ne_some.mpr fun joined h => ?_
    rw [(of_composePair?_separator hseparator hbase h).2] at hsign
    cases hsign
  | some sign =>
    obtain ⟨htaken, hkept, hlast⟩ := composePair?_stroke hsign
    dsimp only
    split
    next hhead =>
      obtain ⟨rest, hrest⟩ := List.head?_eq_some_iff.mp hhead
      have hmark : ¬ combiningClass stroke = 0 := by simp [combiningClass_stroke]
      have hstroke : isSeparator stroke = false := by decide
      have hbehind : key b = stroke :: (compose rest).filter fun c => !isSeparator c := by
        rw [key_eq, compatible, hrest, compose, if_neg hmark,
          List.filter_cons_of_pos (by simp [hstroke])]
      have hjoined : composeFrom e [] 0 (stroke :: rest) = sign :: compose rest := by
        rw [composeFrom]
        simp only [List.isEmpty_nil, Bool.true_or, if_true, htaken]
        exact composeFrom_eq_cons (fun d joined h => by simp [hlast] at h) fun d _ => hlast d
      rw [key_eq, hcompatible, hrest, hjoined, hbehind, List.filter_cons_of_pos (by simp [hkept])]
      rfl
    next hhead =>
      refine hdropped fun d hd => Option.eq_none_iff_forall_ne_some.mpr fun joined h => hhead ?_
      rw [← (of_composePair?_separator hseparator hbase h).1]
      exact hd

/-- **The key of a label with a separator in it** is made of the keys of its sides, unless the
separator is a marker. -/
lemma key_separator (hc : isSeparator c = true) (hmarker : isMarker c = false) (a b : Text) :
    key (a ++ c :: b) = key a ++ keyBehind c b := by
  rw [key_append_of_beginsAnew a (beginsAnew_separator hc hmarker b), key_cons_separator hc hmarker]

/-- A text that joins nothing in front of it does not start with a stroke. -/
lemma keyBehind_of_beginsAnew (c : Char) (h : BeginsAnew b) : keyBehind c b = key b := by
  have hhead : (reorder (decompose (spare b))).head? ≠ some stroke := by
    intro hstroke
    cases hparts : decompose (spare b) with
    | nil => simp [hparts, reorder] at hstroke
    | cons e rest =>
      have hclass := combiningClass_of_beginsGroup (h e (by simp [hparts]))
      rw [hparts, reorder, insertMark_of_base hclass, List.head?_cons] at hstroke
      rw [Option.some.inj hstroke, combiningClass_stroke] at hclass
      cases hclass
  unfold keyBehind
  split
  · rfl
  · rw [if_neg hhead]

end Late

/-- A marker makes no difference anywhere. -/
lemma key_marker {c : Char} (hmarker : isMarker c = true) (a b : Text) :
    key (a ++ c :: b) = key (a ++ b) := by
  have hspare : spare (c :: b) = spare b := by simp [spare, hmarker]
  rw [key_eq, key_eq, spare_append, spare_append, hspare]

/-- Two labels agree with the same labels if they have the same key. -/
lemma forall_agree_iff (s t : Text) : (∀ u, agree s u = agree t u) ↔ key s = key t := by
  constructor
  · intro h
    by_contra hne
    by_cases hs : key s = []
    · have ht : key t ≠ [] := fun ht => hne (hs.trans ht.symm)
      have hself := h t
      simp [agree, hs, ht] at hself
    · have hself := h s
      simp [agree, hs, Ne.symm hne] at hself
  · intro h u
    rw [agree, agree, h]

/-! ### When a separator makes no difference -/

/-- **When a separator makes no difference** to what a label agrees with: always if it is a marker,
and otherwise exactly if the two sides have, side by side, the key that they have together.  They do
if what stands behind the separator joins nothing in front of it. -/
theorem key_insert_separator_iff {c : Char} (hc : isSeparator c = true) (a b : Text) :
    (key (a ++ c :: b) = key (a ++ b) ↔
      isMarker c = true ∨ key (a ++ b) = key a ++ keyBehind c b) ∧
    ((∀ t, agree (a ++ c :: b) t = agree (a ++ b) t) ↔ key (a ++ c :: b) = key (a ++ b)) ∧
    (BeginsAnew b → key (a ++ c :: b) = key (a ++ b)) := by
  have hiff : key (a ++ c :: b) = key (a ++ b) ↔
      isMarker c = true ∨ key (a ++ b) = key a ++ keyBehind c b := by
    cases hmarker : isMarker c with
    | true => simp [key_marker hmarker]
    | false => simp [key_separator hc hmarker, eq_comm]
  refine ⟨hiff, forall_agree_iff _ _, fun h => hiff.mpr (.inr ?_)⟩
  rw [key_append_of_beginsAnew a h, keyBehind_of_beginsAnew c h]

/-- A minus sign between words of different widths. -/
theorem key_insert_separator_words :
    isSeparator '−' = true ∧ isMarker '−' = false ∧
      key ("ＡＢＣ" ++ '−' :: "ｺｰﾄﾞ") = key ("ＡＢＣ" ++ "ｺｰﾄﾞ".toList) ∧ key "ＡＢＣｺｰﾄﾞ" = "ABCコード" := by
  have hbegins : BeginsAnew "ｺｰﾄﾞ" := by
    intro e he
    obtain rfl : 'コ' = e := by
      have hhead : (decompose (spare "ｺｰﾄﾞ")).head? = some 'コ' := by decide +kernel
      exact Option.some.inj (hhead.symm.trans he)
    decide +kernel
  exact ⟨by decide, by decide, (key_insert_separator_iff (by decide) "ＡＢＣ" "ｺｰﾄﾞ").2.2 hbegins,
    by decide +kernel⟩

/-- A hyphen keeps a voicing mark from the character in front of it. -/
theorem key_insert_separator_voiced :
    isSeparator '-' = true ∧ key ("ｶ".toList ++ '-' :: "ﾞ") = ['カ', Char.ofNat 0x3099] ∧
      key ("ｶ".toList ++ "ﾞ") = "ガ" ∧ agree ("ｶ".toList ++ '-' :: "ﾞ") "ガ" = false ∧
      agree ("ｶ".toList ++ "ﾞ") "ガ" = true := by
  decide +kernel

end RuleSheet.Label
