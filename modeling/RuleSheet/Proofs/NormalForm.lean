import RuleSheet.Line
import RuleSheet.Proofs.Text.Trim

/-!
# The normal form of a line

Normalisation runs over a line three times: it takes quotes and blanks from the ends, it takes
blanks from the inside of matched brackets, and it writes one space for every run of blanks that is
left.  None of the passes touches a character that is no blank, and what a pass does with a blank
depends on nothing but the characters around it.  So a line is taken apart here into its letters,
each with one bit that says whether blanks stand before it, and the passes become maps on these
bits.

## Main definitions

* `RuleSheet.Line.Letter`, `letters` — the letters of a text.
* `RuleSheet.Line.tighten` — letters without the blanks inside matched brackets.
* `RuleSheet.Line.spell` — the text of letters, with single spaces.

## Main results

* `RuleSheet.Line.collapse_eq_spell` — to collapse blanks is to spell the letters.
* `RuleSheet.Line.letters_closeGapsFrom` — to close gaps is to tighten the letters.
* `RuleSheet.Line.normalize_eq_some_iff` — the normal form in terms of letters.
* `RuleSheet.Line.normalize_normalize` — a normal form is its own normal form.

## Design

Whether a blank lies inside matched brackets is decided by the brackets on both of its sides, and
no blank is a bracket (`closes_filter`).  Hence all blanks between two neighbouring letters share
one fate, and neither taking blanks away nor replacing them changes the fate of another one.
-/

set_option autoImplicit false

namespace RuleSheet.Line

open Text

/-! ### Letters -/

/-- A character that is no blank, with whether blanks stand right before it. -/
structure Letter where
  /-- Whether blanks stand before it. -/
  apart : Bool
  /-- The character. -/
  char : Char
  deriving DecidableEq, Repr

/-- The letters of a text, given whether blanks stand right before it. -/
def letters (apart : Bool) : Text → List Letter
  | [] => []
  | c :: t => if isBlank c then letters true t else ⟨apart, c⟩ :: letters false t

/-- A letter, behind a space if blanks stand before it. -/
def Letter.spaced (l : Letter) : Text := if l.apart then [' ', l.char] else [l.char]

/-- The text of letters.  No space stands before the first one. -/
def spell : List Letter → Text
  | [] => []
  | l :: rest => l.char :: rest.flatMap Letter.spaced

/-- A letter ends with its character. -/
lemma Letter.exists_spaced (l : Letter) : ∃ front, l.spaced = front ++ [l.char] := by
  unfold spaced
  split
  · exact ⟨[' '], rfl⟩
  · exact ⟨[], rfl⟩

lemma letters_blank {c : Char} (hc : isBlank c = true) (apart : Bool) (t : Text) :
    letters apart (c :: t) = letters true t := if_pos hc

lemma letters_solid {c : Char} (hc : isBlank c = false) (apart : Bool) (t : Text) :
    letters apart (c :: t) = ⟨apart, c⟩ :: letters false t := if_neg (by simp [hc])

/-- The letters are the characters that are no blanks. -/
lemma map_char_letters (apart : Bool) (t : Text) :
    (letters apart t).map Letter.char = t.filter fun c => !isBlank c := by
  induction t generalizing apart with
  | nil => rfl
  | cons c t ih =>
    cases hc : isBlank c with
    | true => rw [letters_blank hc, ih, List.filter_cons_of_neg (by simp [hc])]
    | false => rw [letters_solid hc, List.map_cons, ih, List.filter_cons_of_pos (by simp [hc])]

/-- The text of letters does not show whether blanks stand before the first one. -/
lemma spell_letters_apart (apart : Bool) (t : Text) :
    spell (letters apart t) = spell (letters false t) := by
  cases t with
  | nil => rfl
  | cons c t =>
    cases hc : isBlank c with
    | true => rw [letters_blank hc, letters_blank hc]
    | false =>
      rw [letters_solid hc, letters_solid hc]
      rfl

/-- The first letter behind blanks stands apart. -/
lemma apart_of_letters_true {t : Text} {l : Letter} {rest : List Letter}
    (h : letters true t = l :: rest) : l.apart = true := by
  induction t with
  | nil => cases h
  | cons c t ih =>
    cases hc : isBlank c with
    | true =>
      rw [letters_blank hc] at h
      exact ih h
    | false =>
      rw [letters_solid hc] at h
      rw [← (List.cons.inj h).1]

/-- Letters with their spaces, read again. -/
lemma letters_flatMap_spaced {ls : List Letter} (hls : ∀ l ∈ ls, isBlank l.char = false) :
    letters false (ls.flatMap Letter.spaced) = ls := by
  have hspace : isBlank ' ' = true := by decide
  induction ls with
  | nil => rfl
  | cons l rest ih =>
    obtain ⟨apart, c⟩ := l
    have hc : isBlank c = false := hls ⟨apart, c⟩ List.mem_cons_self
    have hrest := ih fun l hl => hls l (List.mem_cons_of_mem _ hl)
    cases apart with
    | true =>
      rw [List.flatMap_cons, Letter.spaced, if_pos rfl, List.cons_append, List.singleton_append,
        letters_blank hspace, letters_solid hc, hrest]
    | false =>
      rw [List.flatMap_cons, Letter.spaced, if_neg Bool.false_ne_true, List.singleton_append,
        letters_solid hc, hrest]

/-- The letters of a text that was spelled. -/
lemma letters_spell {l : Letter} {rest : List Letter}
    (hls : ∀ k ∈ l :: rest, isBlank k.char = false) :
    letters false (spell (l :: rest)) = ⟨false, l.char⟩ :: rest := by
  rw [spell, letters_solid (hls l List.mem_cons_self),
    letters_flatMap_spaced fun k hk => hls k (List.mem_cons_of_mem _ hk)]

/-- A text that was spelled has no other blanks than spaces. -/
lemma eq_space_of_mem_spell {ls : List Letter} (hls : ∀ l ∈ ls, isBlank l.char = false) {c : Char}
    (hc : c ∈ spell ls) (hblank : isBlank c = true) : c = ' ' := by
  have hspaced : ∀ l ∈ ls, c ∈ l.spaced → c = ' ' := by
    intro l hl hmem
    have hne : c ≠ l.char := by
      rintro rfl
      rw [hls l hl] at hblank
      cases hblank
    unfold Letter.spaced at hmem
    split at hmem <;> simp_all
  cases ls with
  | nil => cases hc
  | cons l rest =>
    rcases List.mem_cons.mp hc with rfl | hc
    · rw [hls l List.mem_cons_self] at hblank
      cases hblank
    · obtain ⟨k, hk, hmem⟩ := List.mem_flatMap.mp hc
      exact hspaced k (List.mem_cons_of_mem _ hk) hmem

/-! ### Collapsing blanks -/

/-- **The words of a text and its letters.**  The letters before the first blank are the first
piece, and every further word starts with a letter that stands apart.

**Proof sketch.** Induction on the text.  A blank ends the first piece, so that all words are
further ones; any other character is put in front of the first piece, and so in front of the first
word if blanks stand before it. -/
lemma flatMap_spaced_letters (t : Text) : ∃ piece pieces, t.splitOnP isBlank = piece :: pieces ∧
    (letters false t).flatMap Letter.spaced =
      piece ++ (pieces.filter (· ≠ [])).flatMap (' ' :: ·) ∧
    (letters true t).flatMap Letter.spaced = (words t).flatMap (' ' :: ·) := by
  induction t with
  | nil => exact ⟨[], [], rfl, rfl, rfl⟩
  | cons c t ih =>
    obtain ⟨piece, pieces, hsplit, hfirst, hwords⟩ := ih
    cases hc : isBlank c with
    | true =>
      have hcons : (c :: t).splitOnP isBlank = [] :: t.splitOnP isBlank := by
        simp [List.splitOnP_cons_eq_if_modifyHead, hc]
      refine ⟨[], t.splitOnP isBlank, hcons, ?_, ?_⟩
      · rw [letters_blank hc, hwords]
        rfl
      · rw [letters_blank hc, hwords, words, words, hcons]
        rfl
    | false =>
      have hcons : (c :: t).splitOnP isBlank = (c :: piece) :: pieces := by
        simp [List.splitOnP_cons_eq_if_modifyHead, hc, hsplit]
      refine ⟨c :: piece, pieces, hcons, ?_, ?_⟩
      · rw [letters_solid hc, List.flatMap_cons, hfirst]
        rfl
      · rw [letters_solid hc, List.flatMap_cons, hfirst, words, hcons]
        simp [Letter.spaced]

/-- Words with single spaces between them. -/
lemma join_space (word : Text) (rest : List Text) :
    join [' '] (word :: rest) = word ++ rest.flatMap (' ' :: ·) := by
  induction rest generalizing word with
  | nil => simp [join]
  | cons next rest ih =>
    have hnext := ih next
    simp only [join, List.intercalate_cons_cons, List.flatMap_cons] at hnext ⊢
    rw [hnext]
    simp

/-- **To collapse blanks is to spell the letters.** -/
lemma collapse_eq_spell (t : Text) : collapse t = spell (letters false t) := by
  obtain ⟨-, -, -, -, hwords⟩ := flatMap_spaced_letters t
  rw [← spell_letters_apart true, collapse]
  cases hletters : letters true t with
  | nil =>
    rw [hletters] at hwords
    cases hw : words t with
    | nil => rfl
    | cons word rest =>
      rw [hw] at hwords
      cases hwords
  | cons l rest =>
    -- both sides of `hwords` start with a space, and behind it stand the two texts
    have happart := apart_of_letters_true hletters
    rw [hletters, List.flatMap_cons, Letter.spaced, if_pos happart] at hwords
    cases hw : words t with
    | nil =>
      rw [hw] at hwords
      cases hwords
    | cons word others =>
      rw [hw, List.flatMap_cons] at hwords
      rw [join_space]
      exact (List.cons.inj hwords).2.symm

/-! ### Closing gaps -/

/-- Whether a place lies inside a matched pair of brackets of either kind, given the numbers of
brackets that are open on its left and the text on its right. -/
def enclosed (corners parens : Nat) (rest : Text) : Bool :=
  Bracket.corner.encloses corners rest || Bracket.paren.encloses parens rest

/-- The letters without the blanks inside matched brackets. -/
def tighten (corners parens : Nat) : List Letter → List Letter
  | [] => []
  | l :: rest =>
    ⟨l.apart && !enclosed corners parens ((l :: rest).map Letter.char), l.char⟩ ::
      tighten (Bracket.corner.depthAfter corners l.char)
        (Bracket.paren.depthAfter parens l.char) rest

/-- A pair of brackets, none of which is a blank. -/
def Visible (b : Bracket) : Prop := isBlank b.opening = false ∧ isBlank b.closing = false

lemma visible_corner : Visible Bracket.corner := ⟨by decide, by decide⟩

lemma visible_paren : Visible Bracket.paren := ⟨by decide, by decide⟩

/-- A blank is no bracket. -/
lemma Visible.ne {b : Bracket} (hb : Visible b) {c : Char} (hc : isBlank c = true) :
    c ≠ b.opening ∧ c ≠ b.closing := by
  constructor
  · rintro rfl
    rw [hb.1] at hc
    cases hc
  · rintro rfl
    rw [hb.2] at hc
    cases hc

/-- A blank opens and closes nothing. -/
lemma depthAfter_blank {b : Bracket} (hb : Visible b) {c : Char} (hc : isBlank c = true)
    (depth : Nat) : b.depthAfter depth c = depth := by
  obtain ⟨hopening, hclosing⟩ := hb.ne hc
  rw [Bracket.depthAfter, if_neg hopening, if_neg hclosing]

/-- How many brackets a text closes does not depend on its blanks. -/
lemma closes_filter {b : Bracket} (hb : Visible b) (t : Text) :
    b.closes (t.filter fun c => !isBlank c) = b.closes t := by
  induction t with
  | nil => rfl
  | cons c t ih =>
    cases hc : isBlank c with
    | true =>
      obtain ⟨hopening, hclosing⟩ := hb.ne hc
      rw [List.filter_cons_of_neg (by simp [hc]), ih, Bracket.closes, if_neg hopening,
        if_neg hclosing]
    | false => rw [List.filter_cons_of_pos (by simp [hc]), Bracket.closes, Bracket.closes, ih]

/-- Whether a place lies inside matched brackets does not depend on blanks. -/
lemma enclosed_filter (corners parens : Nat) (t : Text) :
    enclosed corners parens (t.filter fun c => !isBlank c) = enclosed corners parens t := by
  simp only [enclosed, Bracket.encloses, closes_filter visible_corner, closes_filter visible_paren]

/-- A blank before a text does not change whether the place lies inside matched brackets. -/
lemma enclosed_blank {c : Char} (hc : isBlank c = true) (corners parens : Nat) (t : Text) :
    enclosed corners parens (c :: t) = enclosed corners parens t := by
  rw [← enclosed_filter, List.filter_cons_of_neg (by simp [hc]), enclosed_filter]

/-- Inside matched brackets it does not matter whether blanks stand before the letters. -/
lemma tighten_letters_enclosed {corners parens : Nat} {t : Text}
    (h : enclosed corners parens t = true) (apart : Bool) :
    tighten corners parens (letters apart t) = tighten corners parens (letters false t) := by
  induction t with
  | nil => rfl
  | cons c t ih =>
    cases hc : isBlank c with
    | true => rw [letters_blank hc, letters_blank hc]
    | false =>
      have hchars : enclosed corners parens (c :: (letters false t).map Letter.char) = true := by
        rw [map_char_letters, ← List.filter_cons_of_pos (by simp [hc]), enclosed_filter]
        exact h
      rw [letters_solid hc, letters_solid hc, tighten, tighten, List.map_cons, hchars]
      simp

/-- **To close gaps is to tighten the letters.**  The blanks before the text, if there are any, must
not lie inside matched brackets themselves.

**Proof sketch.** Induction on the text.  A blank inside matched brackets goes, and the letter
behind it, if there is one, is no longer apart (`tighten_letters_enclosed`); any other blank stays,
and the letter behind it is apart on both sides. -/
lemma letters_closeGapsFrom (t : Text) : ∀ (corners parens : Nat) (apart : Bool),
    (apart = true → enclosed corners parens t = false) →
      letters apart (closeGapsFrom corners parens t) =
        tighten corners parens (letters apart t) := by
  induction t with
  | nil => exact fun corners parens apart h => rfl
  | cons c t ih =>
    intro corners parens apart h
    rw [closeGapsFrom]
    cases hc : isBlank c with
    | true =>
      rw [enclosed_blank hc] at h
      rw [depthAfter_blank visible_corner hc, depthAfter_blank visible_paren hc, Bool.true_and,
        letters_blank hc]
      show letters apart (if enclosed corners parens t = true then _ else _) = _
      cases henclosed : enclosed corners parens t with
      | true =>
        have hapart : apart = false := by
          cases apart with
          | false => rfl
          | true =>
            rw [h rfl] at henclosed
            cases henclosed
        subst hapart
        rw [if_pos rfl, ih _ _ _ h, tighten_letters_enclosed henclosed true]
      | false => rw [if_neg Bool.false_ne_true, letters_blank hc, ih _ _ _ fun _ => henclosed]
    | false =>
      have hfilter : enclosed corners parens (c :: (letters false t).map Letter.char) =
          enclosed corners parens (c :: t) := by
        rw [map_char_letters, ← List.filter_cons_of_pos (by simp [hc]), enclosed_filter]
      have hflag : (apart && !enclosed corners parens (c :: t)) = apart := by
        cases apart with
        | false => rfl
        | true => rw [h rfl]; rfl
      rw [Bool.false_and, if_neg Bool.false_ne_true, letters_solid hc, letters_solid hc, tighten,
        List.map_cons, hfilter, hflag, ih _ _ _ fun habsurd => absurd habsurd Bool.false_ne_true]

/-- Tightening takes no letter away. -/
lemma map_char_tighten (ls : List Letter) : ∀ corners parens : Nat,
    (tighten corners parens ls).map Letter.char = ls.map Letter.char := by
  induction ls with
  | nil => exact fun corners parens => rfl
  | cons l rest ih =>
    intro corners parens
    rw [tighten, List.map_cons, List.map_cons, ih]

/-- **Tightened letters stay as they are**: which blanks go is decided by the letters alone. -/
lemma tighten_tighten (ls : List Letter) : ∀ corners parens : Nat,
    tighten corners parens (tighten corners parens ls) = tighten corners parens ls := by
  induction ls with
  | nil => exact fun corners parens => rfl
  | cons l rest ih =>
    intro corners parens
    have hchars := map_char_tighten (l :: rest) corners parens
    rw [tighten] at hchars
    rw [tighten, tighten, hchars, ih, Bool.and_assoc, Bool.and_self]

/-! ### The normal form -/

/-- The letters of the normal form of a line. -/
def normalLetters (raw : Text) : List Letter := tighten 0 0 (letters false (unquote raw))

/-- No letter of a normal form is a blank. -/
lemma not_isBlank_of_mem_normalLetters {raw : Text} {l : Letter} (h : l ∈ normalLetters raw) :
    isBlank l.char = false := by
  have hmem : l.char ∈ (normalLetters raw).map Letter.char := List.mem_map_of_mem h
  rw [normalLetters, map_char_tighten, map_char_letters, List.mem_filter] at hmem
  simpa using hmem.2

/-- **The normal form of a line** is the text of its letters, if there are any. -/
lemma normalize_eq_some_iff (raw out : Text) :
    normalize raw = some out ↔ normalLetters raw ≠ [] ∧ out = spell (normalLetters raw) := by
  have hspell : collapse (closeGaps (unquote raw)) = spell (normalLetters raw) := by
    have hunopened : false = true → enclosed 0 0 (unquote raw) = false := fun h => by cases h
    rw [collapse_eq_spell, closeGaps, letters_closeGapsFrom _ _ _ _ hunopened, normalLetters]
  rw [normalize, hspell]
  cases normalLetters raw with
  | nil => simp [spell]
  | cons l rest => simp [spell, eq_comm]

/-- A normal form has no other blanks than spaces. -/
lemma eq_space_of_mem_normalize {raw out : Text} (h : normalize raw = some out) {c : Char}
    (hc : c ∈ out) (hblank : isBlank c = true) : c = ' ' := by
  obtain ⟨-, rfl⟩ := (normalize_eq_some_iff raw out).mp h
  exact eq_space_of_mem_spell (fun l hl => not_isBlank_of_mem_normalLetters hl) hc hblank

/-- Nothing is left of a line without its quotes and blanks, or it neither starts nor ends with
one. -/
lemma bare_unquote (raw : Text) : unquote raw = [] ∨ Bare isWrapping (unquote raw) := by
  rcases forall_or_surround isWrapping raw with hall | ⟨s, body, u, rfl, hs, hbody, hu⟩
  · exact Or.inl (trimBy_of_forall hall)
  · right
    rwa [unquote, trimBy_surround hs hbody hu]

lemma not_isBlank_of_not_isWrapping {c : Char} (h : isWrapping c = false) : isBlank c = false := by
  rw [isWrapping, Bool.or_eq_false_iff] at h
  exact h.1

/-- Without its blanks, a text that neither starts nor ends with quotes or blanks does not do so
either. -/
lemma bare_filter {t : Text} (h : Bare isWrapping t) :
    Bare isWrapping (t.filter fun c => !isBlank c) := by
  obtain ⟨c, rest, hhead, hc⟩ := h.head
  obtain ⟨front, d, hlast, hd⟩ := h.last
  refine ⟨⟨c, rest.filter fun c => !isBlank c, ?_, hc⟩,
    ⟨front.filter fun c => !isBlank c, d, ?_, hd⟩⟩
  · rw [hhead, List.filter_cons_of_pos (by simp [not_isBlank_of_not_isWrapping hc])]
  · rw [hlast, List.filter_append,
      List.filter_cons_of_pos (by simp [not_isBlank_of_not_isWrapping hd]), List.filter_nil]

/-- A text starts and ends with the first and the last of its letters. -/
lemma bare_spell {p : Char → Bool} {ls : List Letter} (h : Bare p (ls.map Letter.char)) :
    Bare p (spell ls) := by
  obtain ⟨c, chars, hhead, hc⟩ := h.head
  obtain ⟨front, d, hlast, hd⟩ := h.last
  obtain ⟨l, rest, rfl, rfl, -⟩ := List.map_eq_cons_iff.mp hhead
  refine ⟨⟨l.char, _, rfl, hc⟩, ?_⟩
  rcases List.eq_nil_or_concat rest with rfl | ⟨others, k, rfl⟩
  · exact ⟨[], l.char, rfl, hc⟩
  · have hk : k.char = d := by
      have hsame : (l :: others).map Letter.char ++ [k.char] = front ++ [d] := by simpa using hlast
      exact (List.append_singleton_inj.mp hsame).2
    obtain ⟨space, hspace⟩ := k.exists_spaced
    refine ⟨l.char :: others.flatMap Letter.spaced ++ space, k.char, ?_, by rw [hk, hd]⟩
    simp [spell, hspace]

/-- **A normal form is its own normal form.**

**Proof sketch.** The normal form is the text of its letters.  It starts and ends with letters that
are no quotes, so nothing is taken from its ends (`bare_spell`); its letters are those it was
spelled from (`letters_spell`), because blanks never stand before the first one; and they are tight
already (`tighten_tighten`). -/
theorem normalize_normalize (raw out : Text) (h : normalize raw = some out) :
    normalize out = some out := by
  obtain ⟨hne, hout⟩ := (normalize_eq_some_iff raw out).mp h
  have hbare : Bare isWrapping (unquote raw) := by
    refine (bare_unquote raw).resolve_left fun hnil => ?_
    rw [normalLetters, hnil] at hne
    exact hne rfl
  have hunquote : unquote out = out := by
    have hbareOut : Bare isWrapping out := by
      rw [hout]
      refine bare_spell ?_
      rw [normalLetters, map_char_tighten, map_char_letters]
      exact bare_filter hbare
    simpa [unquote] using trimBy_surround (s := []) (u := []) (by simp) hbareOut (by simp)
  have hletters : letters false out = normalLetters raw := by
    obtain ⟨c, rest, hhead, hc⟩ := hbare.head
    have hsolid := not_isBlank_of_not_isWrapping hc
    have hblank : ∀ l ∈ normalLetters raw, isBlank l.char = false :=
      fun l hl => not_isBlank_of_mem_normalLetters hl
    rw [normalLetters, hhead, letters_solid hsolid, tighten, Bool.false_and] at hout hblank ⊢
    rw [hout, letters_spell hblank]
  have hsame : normalLetters out = normalLetters raw := by
    rw [normalLetters, hunquote, hletters, normalLetters, tighten_tighten]
  rw [normalize_eq_some_iff, hsame]
  exact ⟨hne, hout⟩

/-- A line with quotes around it, crossed brackets, a bracket that is never closed, and blanks of
several widths. -/
def crossedLine : Text := "\" a ( b 「 c )　d 」 \t「 e  f\""

/-- The normal form of the line. -/
theorem normalize_crossedLine :
    normalize crossedLine = some ("a (b「c)d」 「 e f" : Text) ∧
      normalize "a (b「c)d」 「 e f" = some ("a (b「c)d」 「 e f" : Text) := by
  have hnormal : normalize crossedLine = some ("a (b「c)d」 「 e f" : Text) := by decide +kernel
  exact ⟨hnormal, normalize_normalize crossedLine _ hnormal⟩

end RuleSheet.Line
