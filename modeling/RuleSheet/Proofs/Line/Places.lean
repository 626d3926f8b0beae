import Mathlib.Data.List.Basic
import Mathlib.Data.List.DropRight
import RuleSheet.Proofs.NormalForm
import RuleSheet.Proofs.Text.Matching

/-!
# The normal form, place by place

What normalisation does to a line can be said on the line itself.  The characters that are no blanks
stay, apart from the quotes at both ends of the line; they stay in their order; and between two of
them stands one space or nothing.  It is a space if blanks stand between the two in the line, unless
the gap lies inside a matched pair of brackets.

## Main definitions

* `RuleSheet.Line.keptPlaces` — the places of a line whose characters stay.
* `RuleSheet.Line.Inside` — a gap lies inside a matched pair of brackets.
* `RuleSheet.Line.gapText` — what stands for the gap between two places.
* `RuleSheet.Line.spread` — the characters of places, with what stands for the gaps between them.

## Main results

* `RuleSheet.Line.normalize_eq_none_iff` — the lines without a normal form.
* `RuleSheet.Line.flatMap_spaced_tighten` — letters without the blanks inside matched brackets,
  spelled.
* `RuleSheet.Line.normalize_spread` — the normal form of a line by its places.

## Design

The passes of normalisation look at the line from both ends: the depth of brackets is counted from
the left, the brackets that get closed from the right.  Here brackets are matched with a stack, in
one pass over the raw line (`RuleSheet.Bracket.pairs`), and `RuleSheet.Bracket.exists_pair_iff`
joins the two.
-/

set_option autoImplicit false

namespace RuleSheet.Line

open Text

/-! ### Places -/

/-- Whether a quote stands at a place. -/
def isQuoteAt (raw : Text) (i : Nat) : Bool := raw[i]? = some '"'

/-- The places of a line whose characters are no blanks, without those of the quotes at both
ends. -/
def keptPlaces (raw : Text) : List Nat :=
  ((raw.findIdxs fun c => !isBlank c).dropWhile (isQuoteAt raw)).rdropWhile (isQuoteAt raw)

/-- The gap between two places lies inside a matched pair of brackets. -/
def Inside (b : Bracket) (raw : Text) (i j : Nat) : Prop := ∃ p ∈ b.pairs raw, p.1 ≤ i ∧ j ≤ p.2

instance (b : Bracket) (raw : Text) (i j : Nat) : Decidable (Inside b raw i j) :=
  decidable_of_iff ((b.pairs raw).any fun p => p.1 ≤ i && j ≤ p.2) (by simp [Inside])

/-- What stands for the gap between two places: a space if there is a gap, and it does not lie
inside matched brackets of either kind. -/
def gapText (raw : Text) (i j : Nat) : Text :=
  if i + 1 < j ∧ ¬ Inside .corner raw i j ∧ ¬ Inside .paren raw i j then [' '] else []

/-- The characters of places behind a given place, each with what stands for the gap before it. -/
def spreadFrom (raw : Text) : Nat → List Nat → Text
  | _, [] => []
  | i, j :: rest => gapText raw i j ++ raw[j]?.toList ++ spreadFrom raw j rest

/-- The characters of places, with what stands for the gaps between them. -/
def spread (raw : Text) : List Nat → Text
  | [] => []
  | i :: rest => raw[i]?.toList ++ spreadFrom raw i rest

/-! ### Characters around a line -/

/-- A character around a line is no bracket. -/
lemma isWrapping_bracket : isWrapping Bracket.corner.opening = false ∧
    isWrapping Bracket.corner.closing = false ∧ isWrapping Bracket.paren.opening = false ∧
    isWrapping Bracket.paren.closing = false := by
  decide

/-- Characters that are no brackets open nothing. -/
lemma depth_append {b : Bracket} {s : Text} (hs : ∀ c ∈ s, c ≠ b.opening ∧ c ≠ b.closing)
    (t : Text) : b.depth (s ++ t) = b.depth t := by
  have hzero : s.foldl b.depthAfter 0 = 0 := by
    induction s with
    | nil => rfl
    | cons c s ih =>
      obtain ⟨hopening, hclosing⟩ := hs c List.mem_cons_self
      rw [List.foldl_cons, Bracket.depthAfter, if_neg hopening, if_neg hclosing]
      exact ih fun d hd => hs d (List.mem_cons_of_mem c hd)
  rw [Bracket.depth, List.foldl_append, hzero, Bracket.depth]

/-- Characters that are no brackets close nothing. -/
lemma closes_append {b : Bracket} {u : Text} (hu : ∀ c ∈ u, c ≠ b.opening ∧ c ≠ b.closing)
    (t : Text) : b.closes (t ++ u) = b.closes t := by
  have hzero : b.closes u = 0 := by
    induction u with
    | nil => rfl
    | cons c u ih =>
      obtain ⟨hopening, hclosing⟩ := hu c List.mem_cons_self
      rw [Bracket.closes.eq_2, if_neg hopening, if_neg hclosing]
      exact ih fun d hd => hu d (List.mem_cons_of_mem c hd)
  induction t with
  | nil => exact hzero
  | cons c t ih => rw [List.cons_append, Bracket.closes, Bracket.closes, ih]

/-- Characters around a line are no brackets. -/
lemma ne_of_isWrapping {c d : Char} (hc : isWrapping c = true) (hd : isWrapping d = false) :
    c ≠ d := by
  rintro rfl
  rw [hd] at hc
  cases hc

/-- A character around a line that is no blank is a quote. -/
lemma eq_quote_of_isWrapping {c : Char} (hc : isWrapping c = true) (hsolid : isBlank c = false) :
    c = '"' := by
  simpa [isWrapping, hsolid] using hc

/-! ### Gaps -/

/-- **A gap lies inside a matched pair** exactly if the brackets around it say so. -/
lemma inside_iff {b : Bracket} (hb : Visible b) {s t : Text} {i : Nat} (hi : i < s.length)
    (hgap : ∀ k c, i < k → s[k]? = some c → isBlank c = true) :
    Inside b (s ++ t) i s.length ↔ b.encloses (b.depth s) t = true := by
  rw [← b.exists_pair_iff s t]
  refine exists_congr fun p => and_congr_right fun hp => and_congr_left fun _ => ?_
  constructor
  · intro h
    omega
  · intro h
    -- the opening bracket of the pair is no blank, so it does not stand in the gap
    by_contra hlt
    have hopening := (b.brackets_of_mem_pairs hp).1
    rw [List.getElem?_append_left h] at hopening
    have hblank := hgap p.1 _ (by omega) hopening
    rw [hb.1] at hblank
    cases hblank

/-- What stands for a gap. -/
lemma gapText_eq {s t : Text} {i : Nat} (hi : i < s.length)
    (hgap : ∀ k c, i < k → s[k]? = some c → isBlank c = true) :
    gapText (s ++ t) i s.length =
      if (decide (i + 1 < s.length) &&
        !enclosed (Bracket.corner.depth s) (Bracket.paren.depth s) t) = true
      then [' '] else [] := by
  simp only [gapText, inside_iff visible_corner hi hgap, inside_iff visible_paren hi hgap, enclosed,
    Bool.and_eq_true, Bool.not_eq_true', Bool.or_eq_false_iff, decide_eq_true_eq, Bool.not_eq_true]

/-- **Letters without the blanks inside matched brackets, spelled.**  The letters are those of a
part of the line, `i` is the last place before it whose character is no blank, and no bracket stands
behind it.

**Proof sketch.** Induction on the part.  A blank makes the gap longer; any other character ends the
gap and is the last one before the rest. -/
lemma flatMap_spaced_tighten {u : Text} (hu : ∀ c ∈ u, isWrapping c = true) (t : Text) :
    ∀ (s : Text) (i : Nat), i < s.length → (∀ k c, i < k → s[k]? = some c → isBlank c = true) →
      (tighten (Bracket.corner.depth s) (Bracket.paren.depth s)
          (letters (decide (i + 1 < s.length)) t)).flatMap Letter.spaced =
        spreadFrom (s ++ t ++ u) i (t.findIdxs (fun c => !isBlank c) s.length) := by
  induction t with
  | nil => exact fun s i hi hgap => rfl
  | cons c t ih =>
    intro s i hi hgap
    have hwhole : s ++ c :: t ++ u = s ++ [c] ++ t ++ u := by simp
    have hlength : (s ++ [c]).length = s.length + 1 := by simp
    cases hc : isBlank c with
    | true =>
      have hlonger : ∀ k d, i < k → (s ++ [c])[k]? = some d → isBlank d = true := by
        intro k d hk hd
        rcases Nat.lt_or_ge k s.length with hks | hks
        · rw [List.getElem?_append_left hks] at hd
          exact hgap k d hk hd
        · rw [List.getElem?_append_right hks] at hd
          obtain rfl : d = c := by simpa using List.mem_of_getElem? hd
          exact hc
      have hstep := ih (s ++ [c]) i (by omega) hlonger
      rw [Bracket.depth_concat, Bracket.depth_concat, depthAfter_blank visible_corner hc,
        depthAfter_blank visible_paren hc, hlength, decide_eq_true (by omega)] at hstep
      rw [letters_blank hc, hstep, hwhole, List.findIdxs_cons, if_neg (by simp [hc])]
    | false =>
      have hnone : ∀ k d, s.length < k → (s ++ [c])[k]? = some d → isBlank d = true := by
        intro k d hk hd
        have hlt := (List.getElem?_eq_some_iff.mp hd).1
        omega
      have hstep := ih (s ++ [c]) s.length (by omega) hnone
      have hchars : enclosed (Bracket.corner.depth s) (Bracket.paren.depth s)
          (c :: (letters false t).map Letter.char) =
            enclosed (Bracket.corner.depth s) (Bracket.paren.depth s) (c :: t ++ u) := by
        obtain ⟨hco, hcc, hpo, hpc⟩ := isWrapping_bracket
        rw [map_char_letters, ← List.filter_cons_of_pos (by simp [hc]), enclosed_filter]
        simp only [enclosed, Bracket.encloses]
        rw [closes_append fun d hd =>
            ⟨ne_of_isWrapping (hu d hd) hco, ne_of_isWrapping (hu d hd) hcc⟩,
          closes_append fun d hd =>
            ⟨ne_of_isWrapping (hu d hd) hpo, ne_of_isWrapping (hu d hd) hpc⟩]
      have hgapText := gapText_eq (t := c :: t ++ u) hi hgap
      have hplace : (s ++ (c :: t ++ u))[s.length]? = some c := by simp
      rw [Bracket.depth_concat, Bracket.depth_concat, hlength, decide_eq_false (by omega)] at hstep
      rw [letters_solid hc, tighten, List.map_cons, hchars, List.flatMap_cons, hstep,
        List.findIdxs_cons, if_pos (by simp [hc]), spreadFrom, ← hwhole, List.append_assoc s,
        hgapText, hplace, Letter.spaced]
      split <;> rfl

/-! ### The places that are kept -/

/-- Around a line, a place whose character is no blank is that of a quote. -/
lemma isQuoteAt_of_mem_findIdxs {s t : Text} (ht : ∀ c ∈ t, isWrapping c = true) (u : Text)
    {i : Nat} (hi : i ∈ t.findIdxs (fun c => !isBlank c) s.length) :
    isQuoteAt (s ++ t ++ u) i = true := by
  obtain ⟨hle, hlt, hsolid⟩ := List.mem_findIdxs_iff_getElem_sub_pos.mp hi
  have hplace : (s ++ t ++ u)[i]? = some t[i - s.length] := by
    rw [List.append_assoc, List.getElem?_append_right hle, List.getElem?_append_left hlt,
      List.getElem?_eq_getElem hlt]
  have hquote := eq_quote_of_isWrapping (ht _ (List.getElem_mem hlt)) (by simpa using hsolid)
  rw [isQuoteAt, hplace, hquote]
  rfl

/-- The places of quotes are dropped in front. -/
lemma dropWhile_places {raw s : Text} {places : List Nat} {first : Nat}
    (hs : ∀ i ∈ s.findIdxs (fun c => !isBlank c), isQuoteAt raw i = true)
    (hfirst : places.head? = some first) (hkept : isQuoteAt raw first = false) (more : List Nat) :
    ((s.findIdxs fun c => !isBlank c) ++ places ++ more).dropWhile (isQuoteAt raw) =
      places ++ more := by
  obtain ⟨rest, rfl⟩ := List.head?_eq_some_iff.mp hfirst
  rw [List.append_assoc, List.dropWhile_append_of_pos hs, List.cons_append,
    List.dropWhile_cons_of_neg (by simp [hkept])]

/-- **The places that are kept** are those inside the line without the quotes and blanks around
it. -/
lemma keptPlaces_surround {s body u : Text} (hs : ∀ c ∈ s, isWrapping c = true)
    (hbody : Bare isWrapping body) (hu : ∀ c ∈ u, isWrapping c = true) :
    keptPlaces (s ++ body ++ u) = body.findIdxs (fun c => !isBlank c) s.length := by
  obtain ⟨c, rest, hhead, hc⟩ := hbody.head
  obtain ⟨front, d, hlast, hd⟩ := hbody.last
  have hsolid : ∀ e, isWrapping e = false → (!isBlank e) = true := by
    intro e he
    rw [not_isBlank_of_not_isWrapping he]
    rfl
  have hunquoted : ∀ e, isWrapping e = false → e ≠ '"' := by
    rintro e he rfl
    cases he
  have hwhole : (s ++ body ++ u).findIdxs (fun c => !isBlank c) =
      s.findIdxs (fun c => !isBlank c) ++ body.findIdxs (fun c => !isBlank c) s.length ++
        u.findIdxs (fun c => !isBlank c) (s ++ body).length := by
    rw [List.findIdxs_append, List.findIdxs_append, Nat.zero_add, Nat.zero_add]
  have hstart : ∀ i ∈ s.findIdxs (fun c => !isBlank c), isQuoteAt (s ++ body ++ u) i = true := by
    intro i hi
    simpa using isQuoteAt_of_mem_findIdxs (s := []) hs (body ++ u) hi
  have hend : ∀ i ∈ u.findIdxs (fun c => !isBlank c) (s ++ body).length,
      isQuoteAt (s ++ body ++ u) i = true := by
    intro i hi
    simpa using isQuoteAt_of_mem_findIdxs hu [] hi
  have hfirst : isQuoteAt (s ++ body ++ u) s.length = false := by
    simp [isQuoteAt, hhead, hunquoted c hc]
  have hfinal : isQuoteAt (s ++ body ++ u) (s.length + front.length) = false := by
    have hplace : (s ++ body ++ u)[s.length + front.length]? = some d := by
      simp [hlast]
    rw [isQuoteAt, hplace]
    simp [hunquoted d hd]
  have hbegins : (body.findIdxs (fun c => !isBlank c) s.length).head? = some s.length := by
    rw [hhead, List.findIdxs_cons, if_pos (hsolid c hc)]
    rfl
  have hconcat : body.findIdxs (fun c => !isBlank c) s.length =
      front.findIdxs (fun c => !isBlank c) s.length ++ [s.length + front.length] := by
    rw [hlast, List.findIdxs_append, List.findIdxs_singleton, if_pos (hsolid d hd)]
  rw [keptPlaces, hwhole, dropWhile_places hstart hbegins hfirst, List.rdropWhile,
    List.reverse_append, List.dropWhile_append_of_pos fun i hi => hend i (List.mem_reverse.mp hi),
    hconcat, List.reverse_append, List.reverse_singleton, List.singleton_append,
    List.dropWhile_cons_of_neg (by rw [hfinal]; simp), List.reverse_cons, List.reverse_reverse]

/-! ### The normal form -/

/-- **The lines without a normal form** are those of blanks and quotes. -/
lemma normalize_eq_none_iff (raw : Text) :
    normalize raw = none ↔ ∀ c ∈ raw, isBlank c = true ∨ c = '"' := by
  have hwrapping : (∀ c ∈ raw, isWrapping c = true) ↔ ∀ c ∈ raw, isBlank c = true ∨ c = '"' := by
    simp [isWrapping]
  rw [← hwrapping]
  rcases forall_or_surround isWrapping raw with hall | ⟨s, body, u, rfl, hs, hbody, hu⟩
  · have hnone : normalize raw = none := by
      rw [normalize, unquote, trimBy_of_forall hall]
      rfl
    exact ⟨fun _ => hall, fun _ => hnone⟩
  · obtain ⟨c, rest, rfl, hc⟩ := hbody.head
    constructor
    · intro hnone
      have hletters : normalLetters (s ++ c :: rest ++ u) ≠ [] := by
        rw [normalLetters, unquote, trimBy_surround hs hbody hu,
          letters_solid (not_isBlank_of_not_isWrapping hc), tighten]
        simp
      rw [(normalize_eq_some_iff _ _).mpr ⟨hletters, rfl⟩] at hnone
      cases hnone
    · intro hall
      have hwrap := hall c (by simp)
      rw [hc] at hwrap
      cases hwrap

/-- The characters of a spelled text that are no blanks. -/
lemma filter_spell {ls : List Letter} (hls : ∀ l ∈ ls, isBlank l.char = false) :
    ((spell ls).filter fun c => !isBlank c) = ls.map Letter.char := by
  cases ls with
  | nil => rfl
  | cons l rest =>
    rw [← map_char_letters false, letters_spell hls]
    rfl

/-- The characters of a line that are no blanks, without the quotes at both ends. -/
lemma trimBy_filter {s body u : Text} (hs : ∀ c ∈ s, isWrapping c = true)
    (hbody : Bare isWrapping body) (hu : ∀ c ∈ u, isWrapping c = true) :
    trimBy (· = '"') ((s ++ body ++ u).filter fun c => !isBlank c) =
      body.filter fun c => !isBlank c := by
  have hquotes : ∀ t : Text, (∀ c ∈ t, isWrapping c = true) →
      ∀ c ∈ t.filter fun c => !isBlank c, decide (c = '"') = true := by
    intro t ht c hc
    obtain ⟨hmem, hsolid⟩ := List.mem_filter.mp hc
    exact decide_eq_true (eq_quote_of_isWrapping (ht c hmem) (by simpa using hsolid))
  have hunquoted : ∀ e, isWrapping e = false → decide (e = '"') = false := by
    rintro e he
    refine decide_eq_false ?_
    rintro rfl
    cases he
  obtain ⟨⟨c, rest, hhead, hc⟩, ⟨front, d, hlast, hd⟩⟩ := bare_filter hbody
  rw [List.filter_append, List.filter_append]
  exact trimBy_surround (hquotes s hs)
    ⟨⟨c, rest, hhead, hunquoted c hc⟩, ⟨front, d, hlast, hunquoted d hd⟩⟩ (hquotes u hu)

/-- **The normal form of a line by its places.**  A line has none exactly if it consists of blanks
and quotes.  Otherwise the characters of the normal form that are no blanks are those of the line,
without the quotes at both ends, in their order; and it consists of these characters, with a space
between two neighbours exactly if blanks stand between them in the line and the gap lies inside no
matched pair of corner brackets and no matched pair of round brackets. -/
theorem normalize_spread (raw : Text) :
    (normalize raw = none ↔ ∀ c ∈ raw, isBlank c = true ∨ c = '"') ∧
      ∀ out, normalize raw = some out →
        (out.filter fun c => !isBlank c) = trimBy (· = '"') (raw.filter fun c => !isBlank c) ∧
          out = spread raw (keptPlaces raw) := by
  refine ⟨normalize_eq_none_iff raw, fun out hout => ?_⟩
  rcases forall_or_surround isWrapping raw with hall | ⟨s, body, u, rfl, hs, hbody, hu⟩
  · have hwraps : ∀ c ∈ raw, isBlank c = true ∨ c = '"' := by simpa [isWrapping] using hall
    rw [(normalize_eq_none_iff raw).mpr hwraps] at hout
    cases hout
  · obtain ⟨hne, rfl⟩ := (normalize_eq_some_iff _ out).mp hout
    have hletters : normalLetters (s ++ body ++ u) = tighten 0 0 (letters false body) := by
      rw [normalLetters, unquote, trimBy_surround hs hbody hu]
    constructor
    · rw [filter_spell fun l hl => not_isBlank_of_mem_normalLetters hl, hletters, map_char_tighten,
        map_char_letters, trimBy_filter hs hbody hu]
    · obtain ⟨c, rest, hhead, hc⟩ := hbody.head
      have hsolid := not_isBlank_of_not_isWrapping hc
      obtain ⟨hco, hcc, hpo, hpc⟩ := isWrapping_bracket
      have hcorner := depth_append (b := .corner) (s := s)
        (fun d hd => ⟨ne_of_isWrapping (hs d hd) hco, ne_of_isWrapping (hs d hd) hcc⟩) [c]
      have hparen := depth_append (b := .paren) (s := s)
        (fun d hd => ⟨ne_of_isWrapping (hs d hd) hpo, ne_of_isWrapping (hs d hd) hpc⟩) [c]
      have hnone : ∀ k d, s.length < k → (s ++ [c])[k]? = some d → isBlank d = true := by
        intro k d hk hd
        have hlt := (List.getElem?_eq_some_iff.mp hd).1
        rw [List.length_append, List.length_singleton] at hlt
        omega
      have hrest := flatMap_spaced_tighten hu rest (s ++ [c]) s.length (by simp) hnone
      have hplace : (s ++ c :: rest ++ u)[s.length]? = some c := by simp
      rw [hcorner, hparen, List.length_append, List.length_singleton, decide_eq_false (by omega),
        List.append_assoc s [c], List.singleton_append] at hrest
      rw [hletters, keptPlaces_surround hs hbody hu, hhead, letters_solid hsolid, tighten, spell,
        List.findIdxs_cons, if_pos (by simp [hsolid]), spread, hplace, ← hrest]
      rfl

/-- The places of a line with crossed brackets. -/
theorem normalize_spread_crossedLine :
    normalize crossedLine = some ("a (b「c)d」 「 e f" : Text) ∧
      keptPlaces crossedLine = [2, 4, 6, 8, 10, 12, 14, 16, 19, 21, 24] ∧
      Bracket.corner.pairs crossedLine = [(8, 16)] ∧ Bracket.paren.pairs crossedLine = [(4, 12)] ∧
      ("a (b「c)d」 「 e f" : Text) = spread crossedLine (keptPlaces crossedLine) := by
  have hnormal : normalize crossedLine = some ("a (b「c)d」 「 e f" : Text) := by decide +kernel
  exact ⟨hnormal, by decide +kernel, by decide +kernel, by decide +kernel,
    ((normalize_spread crossedLine).2 _ hnormal).2⟩

end RuleSheet.Line
