import RuleSheet.Proofs.Conversion.Reading
import RuleSheet.Proofs.Sentence.Trailing

/-!
# The full stop of a sentence

What becomes of a sentence when its full stop is left out, and the blanks or quotes before it with
it.  Behind blanks the stop makes no difference to a sentence that assigns something.  Behind quotes
it does if the quotes belong to the value: a quoted text behind the sign of equality loses its end.

## Main definitions

* `RuleSheet.Sentence.Signed` — a text that starts with the sign of equality.
* `RuleSheet.Sentence.literal?` — the quoted text that a line assigns.
* `RuleSheet.Sentence.Assigns`, `LosesQuote` — the value of a sentence, and lines of which another
  value is left.

## Main results

* `RuleSheet.Sentence.trim_of_equalsValue?`, `exists_quotes` — values, and what quoted ones look
  like.
* `RuleSheet.Sentence.Trailed.sentence?_eq` — a sentence with a stop behind blanks.
* `RuleSheet.Sentence.Trailed.sentence?_of_quote` — a sentence with a stop behind quotes.
-/

set_option autoImplicit false

namespace RuleSheet

open Text Line

namespace Sentence

/-! ### Values behind the sign of equality -/

/-- The sign of equality stands at the start of a text. -/
def Signed (rest : Text) : Prop := ∃ c body, trim rest = c :: body ∧ (c = '＝' ∨ c = '=')

/-- The value behind the first character of a text. -/
lemma equalsValue?_of_trim {rest body : Text} {c : Char} (h : trim rest = c :: body) :
    equalsValue? rest =
      if (c = '＝' ∨ c = '=') ∧ dropStop (trimStart body) ≠ [] ∧ '\n' ∉ dropStop (trimStart body)
      then some (dropStop (trimStart body)) else none := by
  rw [equalsValue?, h]

/-- A value stands behind the sign. -/
lemma signed_of_equalsValue? {rest value : Text} (h : equalsValue? rest = some value) :
    ∃ c body, trim rest = c :: body ∧ (c = '＝' ∨ c = '=') ∧ value = dropStop (trimStart body) ∧
      value ≠ [] := by
  cases hrest : trim rest with
  | nil =>
    rw [equalsValue?, hrest] at h
    cases h
  | cons c body =>
    rw [equalsValue?_of_trim hrest] at h
    split at h
    next hkept =>
      obtain rfl := Option.some.inj h
      exact ⟨c, body, rfl, hkept.1, rfl, hkept.2.1⟩
    next => cases h

/-- Without the sign there is no value behind it. -/
lemma equalsValue?_of_not_signed {rest : Text} (h : ¬ Signed rest) : equalsValue? rest = none := by
  refine Option.eq_none_iff_forall_ne_some.mpr fun value hvalue => ?_
  obtain ⟨c, body, hrest, hc, -⟩ := signed_of_equalsValue? hvalue
  exact h ⟨c, body, hrest, hc⟩

/-- Where the sign stands, there is no mark before a verb. -/
lemma Signed.after? {rest : Text} (h : Signed rest) : after? "に" (trimStart rest) = none := by
  obtain ⟨c, body, hrest, hc⟩ := h
  obtain ⟨v, -, hstart⟩ := exists_trimEndBy isBlank (trimStart rest)
  have htrim : trimEndBy isBlank (trimStart rest) = c :: body := hrest
  rw [← hstart, htrim]
  rcases hc with rfl | rfl <;> rfl

/-- Where the sign stands, there is no verb. -/
lemma Signed.assignedTo? {rest : Text} (h : Signed rest) : assignedTo? rest = none := by
  obtain ⟨c, body, hrest, hc⟩ := h
  rw [assignedTo?_eq_bind, stretch?, hrest]
  rcases hc with rfl | rfl <;> rfl

/-- A text with a stop behind it. -/
lemma dropStop_concat (front : Text) (c : Char) :
    dropStop (front ++ [c]) =
      if isStop c ∧ trimEnd front ≠ [] then trimEnd front else front ++ [c] := by
  simp only [dropStop, List.getLast?_concat, List.dropLast_concat]

/-- What is left without a stop is a start of the text. -/
lemma dropStop_prefix (t : Text) : dropStop t <+: t := by
  rcases List.eq_nil_or_concat' t with rfl | ⟨front, c, rfl⟩
  · exact List.prefix_rfl
  · rw [dropStop_concat]
    split
    · obtain ⟨v, -, hv⟩ := exists_trimEndBy isBlank front
      exact ⟨v ++ [c], by rw [← List.append_assoc]; exact congrArg (· ++ [c]) hv⟩
    · exact List.prefix_rfl

/-- A value has no blanks at its ends. -/
lemma trim_of_equalsValue? {rest value : Text} (h : equalsValue? rest = some value) :
    trim value = value := by
  obtain ⟨c, body, hrest, -, hvalue, hne⟩ := signed_of_equalsValue? h
  have hhead : ∃ d more, value = d :: more ∧ isBlank d = false := by
    obtain ⟨d, more, hcons⟩ := List.exists_cons_of_ne_nil hne
    obtain ⟨tail, htail⟩ := dropStop_prefix (trimStart body)
    rw [← hvalue, hcons] at htail
    exact ⟨d, more, hcons, not_of_trimStartBy htail.symm⟩
  have hlast : ∃ front d, value = front ++ [d] ∧ isBlank d = false := by
    rcases List.eq_nil_or_concat' (trimStart body) with hnil | ⟨front, d, hbody⟩
    · rw [hnil] at hvalue
      exact absurd hvalue hne
    · rw [hbody, dropStop_concat] at hvalue
      split at hvalue
      next hstop =>
        rw [hvalue]
        exact (trimEndBy_eq_nil_or isBlank front).resolve_left hstop.2
      next =>
        -- the value ends where the text behind the reference does
        refine ⟨front, d, hvalue, ?_⟩
        obtain ⟨before, hbefore⟩ := List.dropWhile_suffix (l := body) isBlank
        have htrim : trimEndBy isBlank (trimStart rest) = (c :: before ++ front) ++ [d] := by
          rw [List.append_assoc, ← hbody]
          exact hrest.trans (congrArg (c :: ·) hbefore.symm)
        rcases trimEndBy_eq_nil_or isBlank (trimStart rest) with hnil | ⟨front', d', heq, hd'⟩
        · rw [hnil] at htrim
          simp at htrim
        · obtain ⟨-, hd⟩ := List.append_inj' (htrim.symm.trans heq) rfl
          rwa [List.singleton_inj.mp hd]
  exact (Bare.mk hhead hlast).trimBy_eq

/-- A quoted text stands between two quotes of a pair. -/
lemma exists_quotes {value x : Text} (h : quoted? value = some x) :
    ∃ o c, (o, c) ∈ quotes ∧ trim value = o :: (x ++ [c]) := by
  obtain ⟨⟨o, c⟩, hmem, hpair⟩ := List.exists_of_findSome?_eq_some h
  obtain ⟨rest, hopening, hclosing⟩ := Option.bind_eq_some_iff.mp hpair
  refine ⟨o, c, hmem, ?_⟩
  rw [(after?_eq_some_iff _ _ _).mp hopening, (before?_eq_some_iff _ _ _).mp hclosing]
  rfl

/-- The double quote makes a pair with itself only. -/
lemma quotes_double {o c : Char} (h : (o, c) ∈ quotes) : o = '"' ↔ c = '"' := by
  have hall : quotes.all (fun pair => decide (pair.1 = '"' ↔ pair.2 = '"')) = true := by decide
  simpa using List.all_eq_true.mp hall _ h

/-- A sentence of a supported form was made from a value that was found. -/
lemma exists_of_elim {α : Type} {found : Option α} {rest : Text} {make : α → Sentence}
    {s : Sentence}
    (h : some (found.elim (.unsupported rest) make) = some s) (hs : s.unsupported? = none) :
    ∃ value, found = some value ∧ s = make value := by
  obtain rfl := Option.some.inj h
  cases found with
  | none => cases hs
  | some value => exact ⟨value, rfl, rfl⟩

namespace Trailed

variable {line t u : Text}

/-- With something behind it, a rest starts with the sign if it does so alone. -/
lemma signed {quote : Prop} (h : Trailed quote line t u)
    (hline : ∀ c, line.getLast? = some c → isBlank c = false) (ht : Signed t) : Signed u := by
  obtain ⟨c, body, ht, hc⟩ := ht
  obtain ⟨w, -, hu⟩ := (h.trim hline).exists_trailing
  exact ⟨c, body ++ w, by rw [hu, ht, List.cons_append], hc⟩

/-- What stands behind the sign. -/
lemma exists_body {quote : Prop} (h : Trailed quote line t u)
    (hline : ∀ c, line.getLast? = some c → isBlank c = false) (hu : Signed u) :
    ∃ c body body', Text.trim t = c :: body ∧ Text.trim u = c :: body' ∧ (c = '＝' ∨ c = '=') ∧
      Trailed quote line body body' := by
  obtain ⟨c, body', hu, hc⟩ := hu
  have htrim := h.trim hline
  cases ht : Text.trim t with
  | nil =>
    -- what stands behind the rest does not start with the sign
    obtain ⟨w, hw, hwhole⟩ := htrim.exists_trailing
    rw [ht, List.nil_append, hu] at hwhole
    have htrailing := hw c (by rw [← hwhole]; exact List.mem_cons_self)
    rcases hc with rfl | rfl <;> exact absurd htrailing (by decide)
  | cons d body =>
    obtain ⟨rest, hrest, htrailed⟩ := htrim.of_suffix (show Text.trim t = [d] ++ body from ht)
    obtain ⟨rfl, rfl⟩ := List.cons.inj (hu.symm.trans hrest)
    exact ⟨c, body, _, rfl, hu, hc, htrailed⟩

/-- A sentence that is no condition starts with a reference, and without what stands behind it the
line does so too. -/
lemma exists_leading? {quote : Prop} (h : Trailed quote line t u) {s : Sentence}
    (hs : sentence? u = some s) (hcondition : s.isCondition = false) :
    ∃ r rest rest', Reference.leading? t = some (r, rest) ∧ Reference.leading? u = some (r, rest') ∧
      Trailed quote line rest rest' := by
  rcases rel_cases h.leading? with ⟨-, hu⟩ | ⟨⟨r, rest⟩, ⟨_, rest'⟩, ht, hu, rfl, hrest⟩
  · rw [sentence?_of_leading?_eq_none hu] at hs
    rcases Option.or_eq_some_iff.mp hs with hopening | ⟨-, hcontinuation⟩
    · obtain ⟨rest, -, rfl⟩ := Option.map_eq_some_iff.mp hopening
      cases hcondition
    · rw [continuation?] at hcontinuation
      split at hcontinuation
      next =>
        obtain rfl := Option.some.inj hcontinuation
        cases hcondition
      next =>
        obtain ⟨rest, -, rfl⟩ := Option.map_eq_some_iff.mp hcontinuation
        cases hcondition
  · exact ⟨r, rest, rest', ht, hu, hrest⟩

/-! ### A stop behind blanks -/

section Stop

/-- Without quotes there are only blanks before the stop. -/
lemma exists_gap (h : Trailed False line t u) :
    ∃ v, (∀ c ∈ v, isBlank c = true) ∧ u = t ++ (v ++ ['。']) := by
  obtain ⟨v, hv, hquote, rfl⟩ := h.exists_tail
  exact ⟨v, forall_isBlank hv hquote.mp, rfl⟩

/-- Where the rest is over, the stop is left. -/
lemma eq_stop_of_trimStart (h : Trailed False line t u) (ht : Text.trimStart t = []) :
    Text.trimStart u = ['。'] := by
  obtain ⟨v, hv, hu⟩ := h.trimStart.exists_gap
  rw [ht, List.nil_append] at hu
  cases v with
  | nil => exact hu
  | cons c v =>
    have hsolid : isBlank c = false := not_of_trimStartBy hu
    rw [hv c List.mem_cons_self] at hsolid
    cases hsolid

variable (hline : ∀ c, line.getLast? = some c → isBlank c = false ∧ isStop c = false)

include hline

/-- A rest is over with the stop if it is over without it. -/
lemma isOver_eq (h : Trailed False line t u) : isOver u = isOver t := by
  cases ht : Text.trimStart t with
  | nil =>
    rw [isOver, isOver, ht, h.eq_stop_of_trimStart ht]
    rfl
  | cons c rest =>
    obtain ⟨v, -, hu⟩ := h.trimStart.exists_gap
    have hover : isOver u = false := by
      rw [isOver, hu, ht]
      cases rest <;> cases v <;> rfl
    rw [hover, isOver, ht]
    cases rest with
    | nil =>
      have hlast : (Text.trimStart t).getLast? = some c := by rw [ht]; rfl
      exact (hline c (h.trimStart.getLast?_line hlast)).2.symm
    | cons d rest => rfl

/-- The verb of assignment. -/
lemma isAssignment_eq (h : Trailed False line t u) : isAssignment u = isAssignment t := by
  have hverb : Option.Rel _ (Text.after? "代入" t) (Text.after? "代入" u) := h.after? (by decide)
  rw [isAssignment, isAssignment]
  rcases rel_cases hverb with ⟨ht, hu⟩ | ⟨rest, rest', ht, hu, hrest⟩ <;> rw [ht, hu]
  have hlong : Option.Rel _ (Text.after? "します" rest) (Text.after? "します" rest') :=
    hrest.after? (by decide)
  have hshort : Option.Rel _ (Text.after? "する" rest) (Text.after? "する" rest') :=
    hrest.after? (by decide)
  dsimp only
  rcases rel_cases hlong with ⟨ht, hu⟩ | ⟨behind, behind', ht, hu, hover⟩ <;> rw [ht, hu]
  · rcases rel_cases hshort with ⟨ht, hu⟩ | ⟨behind, behind', ht, hu, hover⟩ <;> rw [ht, hu]
    · exact hrest.isOver_eq hline
    · exact hover.isOver_eq hline
  · exact hover.isOver_eq hline

/-- A copy. -/
lemma copy?_eq (h : Trailed False line t u) : copy? u = copy? t := by
  rw [Sentence.copy?_eq, Sentence.copy?_eq]
  rcases rel_cases h.copyText? with ⟨ht, hu⟩ | ⟨parts, parts', ht, hu, hparts⟩ <;> rw [ht, hu]
  rw [Option.bind_some, Option.bind_some, hparts.2.isAssignment_eq hline, hparts.1]

/-- A value with the verb. -/
lemma assignedTo?_eq (h : Trailed False line t u) : assignedTo? u = assignedTo? t := by
  rw [assignedTo?_eq_bind, assignedTo?_eq_bind]
  rcases rel_cases (h.stretch? fun c hc => (hline c hc).1) with
    ⟨ht, hu⟩ | ⟨parts, parts', ht, hu, hparts⟩ <;> rw [ht, hu]
  rw [Option.bind_some, Option.bind_some, hparts.2.alignment.2.isAssignment_eq hline, hparts.1]

/-- A value with the sign.  Behind the sign alone the stop itself is the value. -/
lemma equalsValue?_eq_or (h : Trailed False line t u) :
    equalsValue? u = equalsValue? t ∨ equalsValue? t = none ∧ equalsValue? u = some ['。'] := by
  by_cases hu : Signed u
  case neg =>
    have ht : ¬ Signed t := fun ht => hu (h.signed (fun c hc => (hline c hc).1) ht)
    exact .inl ((equalsValue?_of_not_signed hu).trans (equalsValue?_of_not_signed ht).symm)
  obtain ⟨c, body, body', ht, hu, hc, htrailed⟩ := h.exists_body (fun c hc => (hline c hc).1) hu
  rw [equalsValue?_of_trim ht, equalsValue?_of_trim hu]
  rcases List.eq_nil_or_concat' (Text.trimStart body) with hnil | ⟨front, d, hlast⟩
  · right
    rw [hnil, htrailed.eq_stop_of_trimStart hnil]
    exact ⟨if_neg fun h => h.2.1 rfl, if_pos ⟨hc, by decide, by decide⟩⟩
  · -- the same value is left before the stop
    left
    obtain ⟨v, hv, hstart⟩ := htrailed.trimStart.exists_gap
    have hd := hline d (htrailed.trimStart.getLast?_line (by rw [hlast, List.getLast?_concat]))
    have hkept : trimEnd (front ++ [d]) = front ++ [d] :=
      List.rdropWhile_concat_neg isBlank front d (by simp [hd.1])
    have hdrop : dropStop (front ++ [d]) = front ++ [d] := by
      rw [dropStop_concat, if_neg fun h => by simp [hd.2] at h]
    have hdrop' : dropStop (front ++ [d] ++ (v ++ ['。'])) = front ++ [d] := by
      rw [← List.append_assoc, dropStop_concat, trimEnd, trimEndBy_append hv, ← trimEnd, hkept,
        if_pos ⟨by decide, by simp⟩]
    rw [hstart, hlast, hdrop, hdrop']

/-- A number for a field. -/
lemma numberValue?_eq_or (h : Trailed False line t u) :
    numberValue? u = numberValue? t ∨ numberValue? u = some (.unsupported ['。']) := by
  rw [numberValue?, numberValue?, h.assignedTo?_eq hline]
  rcases h.equalsValue?_eq_or hline with heq | ⟨-, hu⟩
  · exact .inl (by rw [heq])
  · right
    rw [hu]
    exact (by decide : equalsNumber? ['。'] = some (.unsupported ['。']))

/-- A value in either of the two ways.  The stop alone is neither a number nor quoted. -/
lemma assignedValue?_eq_or (h : Trailed False line t u) :
    assignedValue? u = assignedValue? t ∨
      assignedValue? t = none ∧ assignedValue? u = some ['。'] := by
  rw [assignedValue?, assignedValue?, h.assignedTo?_eq hline]
  rcases h.equalsValue?_eq_or hline with heq | ⟨ht, hu⟩
  · exact .inl (by rw [heq])
  · right
    have hverb : Sentence.assignedTo? t = none := by
      rw [← h.assignedTo?_eq hline]
      obtain ⟨c, body, hrest, hc, -⟩ := signed_of_equalsValue? hu
      exact Signed.assignedTo? ⟨c, body, hrest, hc⟩
    rw [hverb, ht, hu]
    exact ⟨rfl, rfl⟩

/-- A quoted value. -/
lemma quotedValue_eq (h : Trailed False line t u) :
    (assignedValue? u).bind quoted? = (assignedValue? t).bind quoted? := by
  rcases h.assignedValue?_eq_or hline with heq | ⟨ht, hu⟩
  · rw [heq]
  · rw [ht, hu]
    decide

/-- A value for a variable. -/
lemma variableExpression?_eq (h : Trailed False line t u) :
    variableExpression? u = variableExpression? t := by
  rw [variableExpression?, variableExpression?, h.mentionsBlank_eq, h.bit?_eq]
  rcases h.assignedValue?_eq_or hline with heq | ⟨ht, hu⟩
  · rw [heq]
  · have hnumber : isNumber ['。'] = false := by decide
    have hquoted : quoted? ['。'] = none := by decide
    simp only [ht, hu, hnumber, hquoted]
    rfl

/-- **A sentence with a stop** is the same sentence without it, if it is one that assigns. -/
lemma sentence?_eq (h : Trailed False line line u) {s : Sentence} (hs : sentence? u = some s)
    (hcondition : s.isCondition = false) (hvalue : s.unsupported? = none) :
    sentence? line = some s := by
  obtain ⟨r, rest, rest', ht, hu, hrest⟩ := h.exists_leading? hs hcondition
  cases r with
  | field entity label =>
    rw [sentence?_field hu, hrest.mentionsBlank_eq, hrest.occursIn_eq, h.copy?_eq hline,
      hrest.quotedValue_eq hline] at hs
    rw [sentence?_field ht]
    rcases hrest.numberValue?_eq_or hline with heq | hstop
    · rw [← heq]
      exact hs
    · rw [hstop] at hs
      split at hs
      next hblank => rw [if_pos hblank, hs]
      next =>
        obtain rfl := Option.some.inj hs
        cases hvalue
  | flag name =>
    rw [sentence?_flag hu, hrest.occursIn_eq, h.copy?_eq hline, hrest.bit?_eq] at hs
    rw [sentence?_flag ht]
    split at hs
    next hoccurs => rw [if_pos hoccurs, hs]
    next hoccurs =>
      obtain ⟨value, hbit, rfl⟩ := exists_of_elim hs hvalue
      rw [if_neg hoccurs, hbit]
      rfl
  | «variable» category name =>
    rw [sentence?_variable hu, hrest.occursIn_eq, h.copy?_eq hline,
      hrest.variableExpression?_eq hline] at hs
    rw [sentence?_variable ht]
    split at hs
    next hoccurs => rw [if_pos hoccurs, hs]
    next hoccurs =>
      obtain ⟨value, hexpression, rfl⟩ := exists_of_elim hs hvalue
      rw [if_neg hoccurs, hexpression]
      rfl

end Stop

/-! ### A stop behind quotes -/

section Quote

/-- A verb has no quotes behind it. -/
lemma isAssignment_eq_false (h : Trailed True line t u) : isAssignment u = false := by
  obtain ⟨v, -, hquote, rfl⟩ := h.exists_tail
  by_contra hverb
  have hplain := all_isPlain_of_isAssignment (by simpa using hverb)
  exact not_mem_of_all_isPlain hplain (by decide)
    (by simp [hquote.mpr trivial] : '"' ∈ t ++ (v ++ ['。']))

/-- A copy has no quotes behind it. -/
lemma copy?_eq_none (h : Trailed True line t u) : copy? u = none := by
  rw [Sentence.copy?_eq]
  rcases rel_cases h.copyText? with ⟨-, hu⟩ | ⟨parts, parts', -, hu, -, hverb⟩ <;> rw [hu]
  · rfl
  · rw [Option.bind_some, hverb.isAssignment_eq_false]
    rfl

variable (hline : ∀ c, line.getLast? = some c → isBlank c = false)

include hline

/-- A value with the verb has no quotes behind it. -/
lemma assignedTo?_eq_none (h : Trailed True line t u) : assignedTo? u = none := by
  rw [assignedTo?_eq_bind]
  rcases rel_cases (h.stretch? hline) with ⟨-, hu⟩ | ⟨parts, parts', -, hu, -, hverb⟩ <;> rw [hu]
  · rfl
  · rw [Option.bind_some, hverb.alignment.2.isAssignment_eq_false]
    rfl

/-- A value with the sign has the quotes at its end.  Without them less is left of it. -/
lemma value_of_equalsValue? (h : Trailed True line t u) {value : Text}
    (hvalue : equalsValue? u = some value) :
    Signed t ∧ (∃ front, value = front ++ ['"']) ∧
      ∀ kept, equalsValue? t = some kept → kept.head? = value.head? ∧ kept ≠ value := by
  obtain ⟨c, body', hu, hc, hdrop, -⟩ := signed_of_equalsValue? hvalue
  obtain ⟨c', body, body'', ht, hu', -, htrailed⟩ := h.exists_body hline ⟨c, body', hu, hc⟩
  obtain ⟨rfl, rfl⟩ := List.cons.inj (hu.symm.trans hu')
  obtain ⟨v, hv, hquote, hstart⟩ := htrailed.trimStart.exists_tail
  obtain ⟨front, back, rfl, hback⟩ := exists_last (hquote.mpr trivial)
  have hblank : ∀ d ∈ back, isBlank d = true :=
    forall_isBlank (fun d hd => hv d (by simp [hd])) hback
  have hend : value = Text.trimStart body ++ front ++ ['"'] := by
    have htrim : trimEnd (Text.trimStart body ++ (front ++ '"' :: back)) =
        Text.trimStart body ++ front ++ ['"'] := by
      have hsplit : Text.trimStart body ++ (front ++ '"' :: back) =
          Text.trimStart body ++ front ++ ['"'] ++ back := by simp
      rw [hsplit, trimEnd, trimEndBy_append hblank]
      exact List.rdropWhile_concat_neg isBlank _ _ (by decide)
    rw [hdrop, hstart, ← List.append_assoc, dropStop_concat, htrim, if_pos ⟨by decide, by simp⟩]
  refine ⟨⟨c, body, ht, hc⟩, ⟨_, hend⟩, fun kept hkept => ?_⟩
  obtain ⟨d, rest, ht', -, hstop, hne⟩ := signed_of_equalsValue? hkept
  obtain ⟨rfl, rfl⟩ := List.cons.inj (ht.symm.trans ht')
  obtain ⟨more, hmore⟩ : kept <+: Text.trimStart body := hstop ▸ dropStop_prefix _
  obtain ⟨e, kept, rfl⟩ := List.exists_cons_of_ne_nil hne
  rw [hend, ← hmore]
  refine ⟨by simp, fun heq => ?_⟩
  have hlength := congrArg List.length heq
  simp only [List.length_append, List.length_cons] at hlength
  omega

/-- A value with a quote is no number. -/
lemma isNumber_eq_false (h : Trailed True line t u) (value : Text)
    (hvalue : equalsValue? u = some value) : isNumber value = false := by
  obtain ⟨-, ⟨front, rfl⟩, -⟩ := h.value_of_equalsValue? hline hvalue
  have hquote : isDigit '"' = false := by decide
  simp [isNumber, hquote]

/-- Without the quotes a quoted value is another one, if it is one. -/
lemma quoted?_ne (h : Trailed True line t u) {value x kept : Text}
    (hvalue : equalsValue? u = some value) (hx : quoted? value = some x)
    (hkept : equalsValue? t = some kept) : isNumber kept = false ∧ quoted? kept ≠ some x := by
  obtain ⟨-, ⟨front, hlast⟩, hless⟩ := h.value_of_equalsValue? hline hvalue
  obtain ⟨hhead, hne⟩ := hless kept hkept
  obtain ⟨o, c, hpair, hwhole⟩ := exists_quotes hx
  rw [trim_of_equalsValue? hvalue] at hwhole
  -- a value that ends with the double quote starts with it
  obtain rfl : c = '"' := by
    have hboth : (o :: x) ++ [c] = front ++ ['"'] := hwhole.symm.trans hlast
    exact List.singleton_inj.mp (List.append_inj' hboth rfl).2
  obtain rfl : o = '"' := (quotes_double hpair).mpr rfl
  rw [hwhole] at hhead
  obtain ⟨rest, rfl⟩ := List.head?_eq_some_iff.mp hhead
  refine ⟨isNumber_literal rest, fun hsame => hne ?_⟩
  obtain ⟨o, c, hpair', hwhole'⟩ := exists_quotes hsame
  rw [trim_of_equalsValue? hkept] at hwhole'
  obtain ⟨rfl, -⟩ := List.cons.inj hwhole'
  obtain rfl : c = '"' := (quotes_double hpair').mp rfl
  rw [hwhole', hwhole]

end Quote

end Trailed

/-! ### The sentence -/

/-- The quoted text that a line assigns, if it assigns one.  The word for an empty value comes
before it, and so does a bit for a variable. -/
def literal? (line : Text) : Option Text :=
  match Reference.leading? line with
  | some (.field _ _, rest) =>
    if mentionsBlank rest && !Reference.occursIn rest then none
    else (assignedValue? rest).bind quoted?
  | some (.variable _ _, rest) =>
    if Reference.occursIn rest || mentionsBlank rest || (bit? rest).isSome then none
    else (assignedValue? rest).bind quoted?
  | _ => none

/-- What a sentence assigns to a field or to a variable, in Java. -/
inductive Assigns : Sentence → Text → Prop
  /-- A text for a field. -/
  | field (entity label t : Text) : Assigns (.field entity label (.text t)) (Java.literal t)
  /-- An expression for a variable. -/
  | variable (name value : Text) : Assigns (.variable name value) value

/-- A line assigns a quoted text with its sentence, and of another line at most another text is
left. -/
def LosesQuote (u line : Text) (s : Sentence) : Prop :=
  ∃ x, literal? u = some x ∧ s.Assigns (Java.literal x) ∧
    ∀ other, sentence? line = some other →
      other.unsupported?.isSome = true ∨ ∃ y, y ≠ x ∧ other.Assigns (Java.literal y)

section Quote

variable {line u rest rest' : Text} {s : Sentence}

/-- A line whose value stands behind the sign is no copy. -/
lemma copy?_of_signed {r : Reference} (h : Reference.leading? line = some (r, rest))
    (hrest : Signed rest) : copy? line = none := by
  refine copy?_eq_none_of_leading? h fun t ht => ?_
  rw [hrest.after?] at ht
  cases ht

/-- Without a verb the value is the one behind the sign. -/
lemma assignedValue?_of_no_verb (h : assignedTo? rest = none) :
    assignedValue? rest = equalsValue? rest := by
  rw [assignedValue?, h]
  rfl

/-- Without a verb a number is the one behind the sign. -/
lemma numberValue?_of_no_verb (h : assignedTo? rest = none) :
    numberValue? rest = (equalsValue? rest).bind equalsNumber? := by
  rw [numberValue?, h]
  cases equalsValue? rest <;> rfl

/-- A value that is no number is left to other rules, or of no supported form. -/
lemma equalsNumber?_of_not_isNumber {value : Text} (h : isNumber value = false) :
    equalsNumber? value = none ∨ equalsNumber? value = some (.unsupported (trim value)) := by
  rw [equalsNumber?, if_neg (by simp [h])]
  split
  · exact .inl rfl
  · exact .inr rfl

/-- Where nothing else is found, a variable gets the value behind the sign. -/
lemma variableExpression?_of_no_verb (hblank : mentionsBlank rest = false) (hbit : bit? rest = none)
    (hverb : assignedTo? rest = none) :
    variableExpression? rest = (equalsValue? rest).bind fun value =>
      if isNumber value then some (foldDigits value) else (quoted? value).map Java.literal := by
  rw [variableExpression?, hblank, hbit, assignedValue?_of_no_verb hverb]
  cases equalsValue? rest <;> rfl

/-- Behind a field, and where neither the word for an empty value nor a verb is found, a value that
is no number is quoted or of no supported form. -/
lemma field_of_no_verb {entity label : Text}
    (h : Reference.leading? line = some (.field entity label, rest)) (hcopy : copy? line = none)
    (hblank : (mentionsBlank rest && !Reference.occursIn rest) = false)
    (hverb : assignedTo? rest = none)
    (hnumber : ∀ value, equalsValue? rest = some value → isNumber value = false)
    (hs : sentence? line = some s) :
    s.unsupported?.isSome = true ∨ ∃ value x, equalsValue? rest = some value ∧
      quoted? value = some x ∧ s = .field entity label (.text x) := by
  rw [sentence?_field h, hblank, hcopy, numberValue?_of_no_verb hverb,
    assignedValue?_of_no_verb hverb] at hs
  cases hequals : equalsValue? rest with
  | none =>
    rw [hequals] at hs
    cases hs
  | some value =>
    rw [hequals, Option.bind_some, Option.bind_some] at hs
    rcases equalsNumber?_of_not_isNumber (hnumber value hequals) with hnone | hunsupported
    · rw [hnone] at hs
      obtain ⟨x, hx, rfl⟩ := Option.map_eq_some_iff.mp hs
      exact .inr ⟨value, x, rfl, hx, rfl⟩
    · rw [hunsupported] at hs
      obtain rfl := Option.some.inj hs
      exact .inl rfl

/-- The same behind a variable, where no bit is found either. -/
lemma variable_of_no_verb {category : Char} {name : Text}
    (h : Reference.leading? line = some (.variable category name, rest))
    (hoccurs : Reference.occursIn rest = false) (hblank : mentionsBlank rest = false)
    (hbit : bit? rest = none) (hverb : assignedTo? rest = none)
    (hnumber : ∀ value, equalsValue? rest = some value → isNumber value = false)
    (hs : sentence? line = some s) :
    s.unsupported?.isSome = true ∨ ∃ value x, equalsValue? rest = some value ∧
      quoted? value = some x ∧ s = .variable (category :: name) (Java.literal x) := by
  rw [sentence?_variable h, hoccurs, variableExpression?_of_no_verb hblank hbit hverb] at hs
  obtain rfl := Option.some.inj hs
  cases hequals : equalsValue? rest with
  | none => exact .inl rfl
  | some value =>
    rw [Option.bind_some, hnumber value hequals]
    cases hx : quoted? value with
    | none => exact .inl rfl
    | some x => exact .inr ⟨value, x, rfl, hx, rfl⟩

namespace Trailed

section

variable (hrest : Trailed True line rest rest')
  (hline : ∀ c, line.getLast? = some c → isBlank c = false) (hs : sentence? u = some s)
  (hvalue : s.unsupported? = none)

include hrest hline hs hvalue

/-- Quotes and a stop behind a sentence about a field. -/
lemma field_of_quote {entity label : Text} (hcopy : copy? u = none)
    (ht : Reference.leading? line = some (.field entity label, rest))
    (hu : Reference.leading? u = some (.field entity label, rest')) :
    (literal? u = none ∧ sentence? line = some s) ∨ LosesQuote u line s := by
  have hverb := hrest.assignedTo?_eq_none hline
  have hliteral : literal? u =
      if mentionsBlank rest && !Reference.occursIn rest then none
      else (equalsValue? rest').bind quoted? := by
    rw [literal?, hu, ← hrest.mentionsBlank_eq, ← hrest.occursIn_eq,
      ← assignedValue?_of_no_verb hverb]
  cases hblank : mentionsBlank rest && !Reference.occursIn rest with
  | true =>
    rw [sentence?_field hu, hrest.mentionsBlank_eq, hrest.occursIn_eq, hblank] at hs
    rw [hliteral, sentence?_field ht, hblank]
    exact .inl ⟨rfl, hs⟩
  | false =>
    right
    have hblank' : (mentionsBlank rest' && !Reference.occursIn rest') = false := by
      rw [hrest.mentionsBlank_eq, hrest.occursIn_eq, hblank]
    rcases field_of_no_verb hu hcopy hblank' hverb (hrest.isNumber_eq_false hline) hs with
      hunsupported | ⟨value, x, hequals, hx, rfl⟩
    · rw [hvalue] at hunsupported
      cases hunsupported
    refine ⟨x, ?_, .field entity label x, fun other hother => ?_⟩
    · rw [hliteral, hblank, hequals]
      exact hx
    -- without the quotes the value is still behind the sign
    have hsigned := (hrest.value_of_equalsValue? hline hequals).1
    rcases field_of_no_verb ht (copy?_of_signed ht hsigned) hblank hsigned.assignedTo?
        (fun kept hkept => (hrest.quoted?_ne hline hequals hx hkept).1) hother with
      hunsupported | ⟨kept, y, hkept, hy, rfl⟩
    · exact .inl hunsupported
    · have hne := (hrest.quoted?_ne hline hequals hx hkept).2
      exact .inr ⟨y, fun heq => hne (heq ▸ hy), .field entity label y⟩

/-- Quotes and a stop behind a sentence about a variable. -/
lemma variable_of_quote {category : Char} {name : Text} (hcopy : copy? u = none)
    (ht : Reference.leading? line = some (.variable category name, rest))
    (hu : Reference.leading? u = some (.variable category name, rest')) :
    (literal? u = none ∧ sentence? line = some s) ∨ LosesQuote u line s := by
  have hverb := hrest.assignedTo?_eq_none hline
  have hliteral : literal? u =
      if Reference.occursIn rest || mentionsBlank rest || (bit? rest).isSome then none
      else (equalsValue? rest').bind quoted? := by
    rw [literal?, hu, ← hrest.mentionsBlank_eq, ← hrest.occursIn_eq, ← hrest.bit?_eq,
      ← assignedValue?_of_no_verb hverb]
  have hoccurs : Reference.occursIn rest = false := by
    by_contra hoccurs
    rw [sentence?_variable hu, hrest.occursIn_eq, if_pos (by simpa using hoccurs), hcopy] at hs
    cases hs
  by_cases hfound : mentionsBlank rest = true ∨ (bit? rest).isSome = true
  · -- what is found does not depend on the end of the line
    have hsame : variableExpression? rest' = variableExpression? rest := by
      rw [variableExpression?, variableExpression?, hrest.mentionsBlank_eq, hrest.bit?_eq]
      rcases hfound with hblank | hbit
      · rw [hblank]
        rfl
      · obtain ⟨b, hb⟩ := Option.isSome_iff_exists.mp hbit
        rw [hb]
    rw [sentence?_variable hu, hrest.occursIn_eq, hoccurs, hsame] at hs
    obtain ⟨value, hexpression, rfl⟩ := exists_of_elim hs hvalue
    left
    refine ⟨hliteral.trans (if_pos (by simpa [hoccurs] using hfound)), ?_⟩
    rw [sentence?_variable ht, hoccurs, hexpression]
    rfl
  · right
    obtain ⟨hblank, hbit⟩ : mentionsBlank rest = false ∧ bit? rest = none := by simpa using hfound
    rcases variable_of_no_verb hu (hrest.occursIn_eq.trans hoccurs)
        (hrest.mentionsBlank_eq.trans hblank) (hrest.bit?_eq.trans hbit) hverb
        (hrest.isNumber_eq_false hline) hs with
      hunsupported | ⟨value, x, hequals, hx, rfl⟩
    · rw [hvalue] at hunsupported
      cases hunsupported
    refine ⟨x, ?_, .variable _ _, fun other hother => ?_⟩
    · rw [hliteral, hoccurs, hblank, hbit, hequals]
      exact hx
    have hsigned := (hrest.value_of_equalsValue? hline hequals).1
    rcases variable_of_no_verb ht hoccurs hblank hbit hsigned.assignedTo?
        (fun kept hkept => (hrest.quoted?_ne hline hequals hx hkept).1) hother with
      hunsupported | ⟨kept, y, hkept, hy, rfl⟩
    · exact .inl hunsupported
    · have hne := (hrest.quoted?_ne hline hequals hx hkept).2
      exact .inr ⟨y, fun heq => hne (heq ▸ hy), .variable _ _⟩

end

/-- **A sentence with quotes and a stop** is the same sentence without them, unless it assigns a
quoted text: then the quotes are those of the text, and without them it is another sentence. -/
lemma sentence?_of_quote (h : Trailed True line line u)
    (hline : ∀ c, line.getLast? = some c → isBlank c = false) (hs : sentence? u = some s)
    (hcondition : s.isCondition = false) (hvalue : s.unsupported? = none) :
    (literal? u = none ∧ sentence? line = some s) ∨ LosesQuote u line s := by
  obtain ⟨r, rest, rest', ht, hu, hrest⟩ := h.exists_leading? hs hcondition
  cases r with
  | field entity label => exact hrest.field_of_quote hline hs hvalue h.copy?_eq_none ht hu
  | «variable» category name => exact hrest.variable_of_quote hline hs hvalue h.copy?_eq_none ht hu
  | flag name =>
    left
    refine ⟨by rw [literal?, hu], ?_⟩
    rw [sentence?_flag hu, hrest.occursIn_eq, h.copy?_eq_none, hrest.bit?_eq] at hs
    rw [sentence?_flag ht]
    split at hs
    next => cases hs
    next hoccurs =>
      obtain ⟨value, hbit, rfl⟩ := exists_of_elim hs hvalue
      rw [if_neg hoccurs, hbit]
      rfl

end Trailed

end Quote

end Sentence

end RuleSheet
