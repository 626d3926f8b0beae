import RuleSheet.Line
import RuleSheet.Proofs.Sentence.Literals

/-!
# What stands behind a sentence

A full stop may stand behind a sentence, and blanks and quotes before it.  A line is read from its
start, so all parts of it are read alike with and without them; only the rest that is left over at
the end has them behind it or not.

## Main definitions

* `RuleSheet.Sentence.stretch?` — a value before its verb.
* `RuleSheet.Sentence.isTrailing` — blanks, quotes and the full stop.
* `RuleSheet.Sentence.Trailed` — the rest of a line, and the same rest with a full stop behind it.

## Main results

* `RuleSheet.Sentence.Trailed.leading?`, `copyText?`, `stretch?` — the parts of a line are read
  alike.
* `RuleSheet.Sentence.Trailed.mentionsBlank_eq`, `occursIn_eq`, `bit?_eq` — and the same is found in
  it.
-/

set_option autoImplicit false

namespace RuleSheet.Sentence

open Text Line

/-! ### The verb -/

/-- What stands between `に` and the last `を`, and what follows. -/
def stretch? (rest : Text) : Option (Text × Text) :=
  (after? "に" (trim rest)).bind fun body => cutLast? "を" body

/-- The value that the verb assigns is the operand of a stretch before a verb. -/
lemma assignedTo?_eq_bind (rest : Text) :
    assignedTo? rest = (stretch? rest).bind fun parts =>
      if isAssignment (alignment parts.2).2 then operand? parts.1 else none := by
  rw [stretch?, Option.bind_assoc]
  rfl

/-! ### Rests of a line -/

/-- Blanks, quotes and the full stop. -/
def isTrailing (c : Char) : Bool := isWrapping c || c = '。'

/-- The rest of a line, and the same rest with blanks, quotes and a full stop behind it.  Whether
there are quotes is a parameter. -/
structure Trailed (quote : Prop) (line t u : Text) : Prop where
  /-- The line ends with the rest. -/
  suffix : t <:+ line
  /-- What stands behind it. -/
  exists_tail : ∃ v, (∀ c ∈ v, isWrapping c = true) ∧ ('"' ∈ v ↔ quote) ∧ u = t ++ (v ++ ['。'])

/-- What is read of two texts alike goes on alike. -/
lemma rel_bind {α β γ δ : Type} {R : α → β → Prop} {S : γ → δ → Prop} {a : Option α} {b : Option β}
    (h : Option.Rel R a b) {f : α → Option γ} {g : β → Option δ}
    (hnext : ∀ x y, R x y → Option.Rel S (f x) (g y)) : Option.Rel S (a.bind f) (b.bind g) := by
  cases h with
  | none => exact .none
  | some hxy => exact hnext _ _ hxy

/-- What is read of two texts alike is read of both or of none. -/
lemma rel_cases {α β : Type} {R : α → β → Prop} {a : Option α} {b : Option β}
    (h : Option.Rel R a b) : (a = none ∧ b = none) ∨ ∃ x y, a = some x ∧ b = some y ∧ R x y := by
  cases h with
  | none => exact .inl ⟨rfl, rfl⟩
  | some hxy => exact .inr ⟨_, _, rfl, rfl, hxy⟩

/-- Without quotes there are only blanks around a line. -/
lemma forall_isBlank {v : Text} (hv : ∀ c ∈ v, isWrapping c = true) (hquote : '"' ∉ v) :
    ∀ c ∈ v, isBlank c = true := by
  intro c hc
  have hne : c ≠ '"' := by
    rintro rfl
    exact hquote hc
  simpa [isWrapping, hne] using hv c hc

/-- A trailing character is not telling. -/
lemma not_isTelling_of_isTrailing {c : Char} (h : isTrailing c = true) : isTelling c = false := by
  have hall : telling.all (!isTrailing ·) = true := by decide
  by_contra htelling
  have hmem : c ∈ telling := by simpa [isTelling] using htelling
  simpa [h] using List.all_eq_true.mp hall c hmem

namespace Trailed

variable {quote : Prop} {line t u : Text}

/-- The characters behind the rest. -/
lemma exists_trailing (h : Trailed quote line t u) :
    ∃ w, (∀ c ∈ w, isTrailing c = true) ∧ u = t ++ w := by
  obtain ⟨v, hv, -, rfl⟩ := h.exists_tail
  refine ⟨v ++ ['。'], fun c hc => ?_, rfl⟩
  rcases List.mem_append.mp hc with hc | hc
  · simp [isTrailing, hv c hc]
  · simp [isTrailing, List.mem_singleton.mp hc]

/-- A rest of the rest. -/
lemma of_suffix (h : Trailed quote line t u) {front rest : Text} (ht : t = front ++ rest) :
    ∃ rest', u = front ++ rest' ∧ Trailed quote line rest rest' := by
  obtain ⟨v, hv, hquote, rfl⟩ := h.exists_tail
  have hsuffix : rest <:+ line := List.IsSuffix.trans ⟨front, ht.symm⟩ h.suffix
  exact ⟨rest ++ (v ++ ['。']), by rw [ht, List.append_assoc], hsuffix, v, hv, hquote, rfl⟩

/-- Blanks at the start. -/
lemma trimStart (h : Trailed quote line t u) :
    Trailed quote line (trimStart t) (trimStart u) := by
  obtain ⟨v, hv, hquote, rfl⟩ := h.exists_tail
  refine ⟨(List.dropWhile_suffix _).trans h.suffix, ?_⟩
  have hstop : isBlank '。' = false := by decide
  by_cases ht : ∀ c ∈ t, isBlank c = true
  · -- all of the rest is dropped, and blanks behind it
    have hnil : Text.trimStart t = [] := List.dropWhile_eq_nil_iff.mpr ht
    refine ⟨Text.trimStart v, fun c hc => hv c (trimStart_subset v hc), ?_, ?_⟩
    · rw [← hquote]
      refine ⟨fun hc => trimStart_subset v hc, fun hc => ?_⟩
      rw [← List.takeWhile_append_dropWhile (p := isBlank) (l := v)] at hc
      rcases List.mem_append.mp hc with hc | hc
      · have hblank := List.mem_takeWhile_imp hc
        simp [isBlank] at hblank
      · exact hc
    · rw [hnil, List.nil_append, Text.trimStart, trimStartBy, List.dropWhile_append_of_pos ht,
        List.dropWhile_append]
      split
      next hempty =>
        rw [List.isEmpty_iff] at hempty
        simp [Text.trimStart, trimStartBy, hempty, hstop]
      next => rfl
  · refine ⟨v, hv, hquote, ?_⟩
    have hne : (t.dropWhile isBlank).isEmpty = false := by
      simpa [List.dropWhile_eq_nil_iff] using ht
    rw [Text.trimStart, trimStartBy, List.dropWhile_append, hne]
    rfl

/-- A mark without trailing characters is found in both rests or in none. -/
lemma after? (h : Trailed quote line t u) {mark : Text} (hmark : mark.all (!isTrailing ·) = true) :
    Option.Rel (Trailed quote line) (after? mark t) (after? mark u) := by
  cases hafter : Text.after? mark t with
  | none =>
    obtain ⟨w, hw, rfl⟩ := h.exists_trailing
    have hnot : ∀ c ∈ mark, c ∉ w := by
      intro c hc hmem
      have hsolid := List.all_eq_true.mp hmark c hc
      simp [hw c hmem] at hsolid
    rw [after?_append_eq_none hafter hnot]
    exact .none
  | some rest =>
    obtain ⟨rest', rfl, hrest⟩ := h.of_suffix ((after?_eq_some_iff _ _ _).mp hafter)
    rw [(after?_eq_some_iff mark _ rest').mpr rfl]
    exact .some hrest

/-- The brackets at the start. -/
lemma bracketed? (h : Trailed quote line t u) :
    Option.Rel (fun a b => a.1 = b.1 ∧ Trailed quote line a.2 b.2) (Reference.bracketed? t)
      (Reference.bracketed? u) := by
  have hinner : Option.Rel (Trailed quote line) (Text.after? "項目「" t <|> Text.after? "「" t)
      (Text.after? "項目「" u <|> Text.after? "「" u) := by
    have hword : Option.Rel _ (Text.after? "項目「" t) (Text.after? "項目「" u) := h.after? (by decide)
    have hbracket : Option.Rel _ (Text.after? "「" t) (Text.after? "「" u) := h.after? (by decide)
    rcases rel_cases hword with ⟨ht, hu⟩ | ⟨rest, rest', ht, hu, hrest⟩ <;> rw [ht, hu]
    · exact hbracket
    · exact .some hrest
  refine rel_bind hinner fun inner inner' hrest => ?_
  cases hcut : cutBy? (· = '」') inner with
  | none =>
    obtain ⟨w, hw, rfl⟩ := hrest.exists_trailing
    have hnone : cutBy? (· = '」') (inner ++ w) = none := by
      rw [cutBy?_eq_none_iff] at hcut ⊢
      intro c hc
      rcases List.mem_append.mp hc with hc | hc
      · exact hcut c hc
      · refine decide_eq_false ?_
        rintro rfl
        exact absurd (hw _ hc) (by decide)
    rw [hnone]
    exact .none
  | some parts =>
    obtain ⟨inside, d, rest⟩ := parts
    obtain ⟨w, -, rfl⟩ := hrest.exists_trailing
    have hsplit : inner = (inside ++ [d]) ++ rest := by rw [eq_of_cutBy? hcut]; simp
    obtain ⟨rest', heq, htrailed⟩ := hrest.of_suffix hsplit
    obtain rfl : rest ++ w = rest' := by simpa [hsplit] using heq
    rw [cutBy?_append hcut]
    exact .some ⟨rfl, htrailed⟩

/-- The reference at the start. -/
lemma leading? (h : Trailed quote line t u) :
    Option.Rel (fun a b => a.1 = b.1 ∧ Trailed quote line a.2 b.2) (Reference.leading? t)
      (Reference.leading? u) := by
  refine rel_bind h.bracketed? ?_
  rintro ⟨inside, rest⟩ ⟨_, rest'⟩ ⟨rfl, hrest⟩
  dsimp only
  cases Reference.ofContent? inside with
  | none => exact .none
  | some r => exact .some ⟨rfl, hrest⟩

/-- Digits at the start. -/
lemma digits? (h : Trailed quote line t u) :
    Option.Rel (fun a b => a.1 = b.1 ∧ Trailed quote line a.2 b.2) (digits? t) (digits? u) := by
  obtain ⟨w, hw, hu⟩ := h.exists_trailing
  have hdigit : ∀ c ∈ w, isDigit c = false := by
    intro c hc
    by_contra hdigit
    have hsolid := not_isBlank_of_isDigit (by simpa using hdigit : isDigit c = true)
    have htrailing := hw c hc
    rw [isTrailing, isWrapping, hsolid] at htrailing
    have hc : c = '"' ∨ c = '。' := by simpa using htrailing
    rcases hc with rfl | rfl <;> exact absurd hdigit (by decide)
  have hnone : w.takeWhile isDigit = [] := by
    cases w with
    | nil => rfl
    | cons c w => rw [List.takeWhile_cons_of_neg (by simp [hdigit c])]
  have htake : u.takeWhile isDigit = t.takeWhile isDigit := by
    rw [hu, List.takeWhile_append, hnone, List.append_nil]
    split
    next hlength => exact ((List.takeWhile_prefix isDigit).eq_of_length hlength).symm
    next => rfl
  obtain ⟨rest, hrest, htrailed⟩ :=
    h.of_suffix (List.takeWhile_append_dropWhile (p := isDigit) (l := t)).symm
  have hdrop : u.dropWhile isDigit = rest := by
    have hwhole := List.takeWhile_append_dropWhile (p := isDigit) (l := u)
    rw [htake] at hwhole
    exact List.append_cancel_left (hwhole.trans hrest)
  rw [Sentence.digits?, Sentence.digits?, htake, hdrop]
  split
  · exact .none
  · exact .some ⟨rfl, htrailed⟩

/-- A slice at the start. -/
lemma slice? (h : Trailed quote line t u) :
    Option.Rel (fun a b => a.1 = b.1 ∧ Trailed quote line a.2 b.2) (slice? t) (slice? u) := by
  refine rel_bind (h.after? (by decide)) fun a a' ha => ?_
  refine rel_bind ha.trimStart.digits? ?_
  rintro ⟨first, b⟩ ⟨_, b'⟩ ⟨rfl, hb⟩
  refine rel_bind (hb.trimStart.after? (by decide)) fun c c' hc => ?_
  refine rel_bind hc.trimStart.digits? ?_
  rintro ⟨length, d⟩ ⟨_, d'⟩ ⟨rfl, hd⟩
  exact rel_bind (hd.trimStart.after? (by decide)) fun e e' he => .some ⟨rfl, he⟩

/-- A slice that may be missing. -/
lemma slice (h : Trailed quote line t u) :
    (slice t).1 = (slice u).1 ∧ Trailed quote line (slice t).2 (slice u).2 := by
  rw [Sentence.slice, Sentence.slice]
  rcases rel_cases h.slice? with ⟨ht, hu⟩ | ⟨parts, parts', ht, hu, hparts⟩ <;> rw [ht, hu]
  · exact ⟨rfl, h⟩
  · exact ⟨congrArg some hparts.1, hparts.2⟩

/-- An alignment that may be missing. -/
lemma alignment (h : Trailed quote line t u) :
    (alignment t).1 = (alignment u).1 ∧ Trailed quote line (alignment t).2 (alignment u).2 := by
  have hright : Option.Rel _ (Text.after? "右詰で" t) (Text.after? "右詰で" u) := h.after? (by decide)
  have hleft : Option.Rel _ (Text.after? "左詰で" t) (Text.after? "左詰で" u) := h.after? (by decide)
  rw [Sentence.alignment, Sentence.alignment]
  rcases rel_cases hright with ⟨ht, hu⟩ | ⟨rest, rest', ht, hu, hrest⟩ <;> rw [ht, hu]
  · rcases rel_cases hleft with ⟨ht, hu⟩ | ⟨rest, rest', ht, hu, hrest⟩ <;> rw [ht, hu]
    · exact ⟨rfl, h⟩
    · exact ⟨rfl, hrest⟩
  · exact ⟨rfl, hrest⟩

/-- A copy up to the verb. -/
lemma copyText? (h : Trailed quote line t u) :
    Option.Rel (fun a b => a.1 = b.1 ∧ Trailed quote line a.2 b.2) (copyText? t) (copyText? u) := by
  refine rel_bind h.bracketed? ?_
  rintro ⟨target, a⟩ ⟨_, a'⟩ ⟨rfl, ha⟩
  refine rel_bind (ha.trimStart.after? (by decide)) fun b b' hb => ?_
  refine rel_bind hb.trimStart.bracketed? ?_
  rintro ⟨source, c⟩ ⟨_, c'⟩ ⟨rfl, hc⟩
  obtain ⟨hslice, hrest⟩ := hc.trimStart.slice
  refine rel_bind (hrest.trimStart.after? (by decide)) fun d d' hd => ?_
  obtain ⟨haligned, hverb⟩ := hd.trimStart.alignment
  refine .some ⟨?_, hverb.trimStart⟩
  dsimp only
  rw [hslice, haligned]

/-- A rest ends with the character that the line ends with. -/
lemma getLast?_line (h : Trailed quote line t u) {c : Char} (hc : t.getLast? = some c) :
    line.getLast? = some c := by
  obtain ⟨front, hfront⟩ := h.suffix
  rw [← hfront, List.getLast?_append, hc]
  rfl

/-- Blanks at both ends, if the line does not end with a blank. -/
lemma trim (h : Trailed quote line t u)
    (hline : ∀ c, line.getLast? = some c → isBlank c = false) :
    Trailed quote line (trim t) (trim u) := by
  have hstart := h.trimStart
  have htrim : Text.trim t = Text.trimStart t := by
    rcases List.eq_nil_or_concat' (Text.trimStart t) with hnil | ⟨front, c, hlast⟩
    · exact (congrArg (trimEndBy isBlank) hnil).trans hnil.symm
    · have hc := hline c (hstart.getLast?_line (by rw [hlast, List.getLast?_concat]))
      exact (congrArg (trimEndBy isBlank) hlast).trans
        ((List.rdropWhile_concat_neg isBlank front c (by simp [hc])).trans hlast.symm)
  have htrim' : Text.trim u = Text.trimStart u := by
    obtain ⟨v, -, -, hv⟩ := hstart.exists_tail
    rw [← List.append_assoc] at hv
    exact (congrArg (trimEndBy isBlank) hv).trans
      ((List.rdropWhile_concat_neg isBlank _ _ (by decide)).trans hv.symm)
  rw [htrim, htrim']
  exact hstart

/-- The last mark of one character that is not trailing. -/
lemma cutLast? (h : Trailed quote line t u) {c : Char} (hc : isTrailing c = false) :
    Option.Rel (fun a b => a.1 = b.1 ∧ Trailed quote line a.2 b.2) (cutLast? [c] t)
      (cutLast? [c] u) := by
  obtain ⟨w, hw, hu⟩ := h.exists_trailing
  have hnot : c ∉ w := by
    intro hmem
    rw [hw c hmem] at hc
    cases hc
  by_cases hmem : c ∈ t
  · obtain ⟨front, back, ht, hlast⟩ := exists_last hmem
    obtain ⟨rest, hrest, htrailed⟩ := h.of_suffix (ht.trans (List.append_cons front c back))
    have hu' : u = front ++ c :: rest := hrest.trans (List.append_cons _ _ _).symm
    have hlast' : c ∉ rest := by
      obtain rfl : back ++ w = rest := by simpa [hu, ht] using hu'
      simpa [hnot] using hlast
    rw [ht, hu', cutLast?_of_not_mem hlast, cutLast?_of_not_mem hlast']
    exact .some ⟨rfl, htrailed⟩
  · have hnone : ∀ x : Text, c ∉ x → Text.cutLast? [c] x = none := by
      intro x hx
      refine Option.eq_none_iff_forall_ne_some.mpr ?_
      rintro ⟨before, after⟩ hcut
      exact hx (by simp [eq_of_cutLast? hcut])
    rw [hnone t hmem, hnone u (by simp [hu, hmem, hnot])]
    exact .none

/-- A stretch of text before a verb. -/
lemma stretch? (h : Trailed quote line t u)
    (hline : ∀ c, line.getLast? = some c → isBlank c = false) :
    Option.Rel (fun a b => a.1 = b.1 ∧ Trailed quote line a.2 b.2) (stretch? t) (stretch? u) :=
  rel_bind ((h.trim hline).after? (by decide)) fun _ _ hbody => hbody.cutLast? (by decide)

/-! ### What is found anywhere -/

/-- The characters behind the rest are not telling. -/
lemma exists_quiet (h : Trailed quote line t u) :
    ∃ w, (∀ c ∈ w, isTelling c = false) ∧ u = t ++ w := by
  obtain ⟨w, hw, hu⟩ := h.exists_trailing
  exact ⟨w, fun c hc => not_isTelling_of_isTrailing (hw c hc), hu⟩

lemma mentionsBlank_eq (h : Trailed quote line t u) : mentionsBlank u = mentionsBlank t := by
  obtain ⟨w, hw, rfl⟩ := h.exists_quiet
  exact mentionsBlank_surround (u := []) (by simp) hw t

lemma occursIn_eq (h : Trailed quote line t u) : Reference.occursIn u = Reference.occursIn t := by
  obtain ⟨w, hw, rfl⟩ := h.exists_quiet
  exact Reference.occursIn_surround (u := []) (by simp) hw t

lemma bit?_eq (h : Trailed quote line t u) : bit? u = bit? t := by
  obtain ⟨w, hw, rfl⟩ := h.exists_quiet
  exact bit?_append hw t

end Trailed

end RuleSheet.Sentence
