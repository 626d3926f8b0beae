import RuleSheet.Proofs.Sentence.Numbers

/-!
# The sentence of a line, by its leading reference

Every rule but those for conditions starts from the reference at the start of a line.  So which of
them decides is a matter of what stands behind that reference.  Here the order of the rules is
unrolled once for each kind of reference.

## Main definitions

* `RuleSheet.sentence?` — the sentence of a line, whatever rule recognises it.
* `RuleSheet.Sentence.CopyText`, `copyText?` — a copy as it is written, up to the verb.

## Main results

* `RuleSheet.classify_eq` — the clause of a line is that of its sentence.
* `RuleSheet.sentence?_field`, `sentence?_flag`, `sentence?_variable` — the sentence behind each
  kind of reference.
* `RuleSheet.sentence?_of_leading?_eq_none` — the sentence of a line without one.
* `RuleSheet.Sentence.copy?_eq` — a copy is what is written and a verb.
-/

set_option autoImplicit false

namespace RuleSheet

open Text

/-- The sentence of a line. -/
def sentence? (line : Text) : Option Sentence := (recognize line).map Prod.snd

/-- The clause of a line is that of its sentence. -/
lemma classify_eq (tree : FileTree) (helpers : Helpers) (line : Text) (l : Lexicon) :
    classify tree helpers line l =
      (sentence? line).elim (.unrecognized line, l) fun s => s.clause tree helpers line l := by
  rw [classify, sentence?]
  cases recognize line <;> rfl

namespace Sentence

/-! ### Copies -/

/-- A copy as it is written, up to the verb. -/
structure CopyText where
  /-- The text in the brackets of what is assigned to. -/
  target : Text
  /-- The text in the brackets of what is assigned. -/
  source : Text
  /-- The first character and the number of characters of the slice. -/
  slice : Option (Text × Text)
  /-- The side on which it stands. -/
  aligned : Option Alignment

/-- A copy as it is written, and what stands behind it. -/
def copyText? (line : Text) : Option (CopyText × Text) :=
  (Reference.bracketed? line).bind fun target =>
  (after? "に" (trimStart target.2)).bind fun t =>
  (Reference.bracketed? (trimStart t)).bind fun source =>
  (after? "を" (trimStart (slice (trimStart source.2)).2)).bind fun t =>
  some (⟨target.1, source.1, (slice (trimStart source.2)).1, (alignment (trimStart t)).1⟩,
    trimStart (alignment (trimStart t)).2)

/-- The copy that is written, if both of its texts are references. -/
def CopyText.copy? (c : CopyText) : Option Copy :=
  (Reference.ofContent? c.target).bind fun target =>
  (Reference.ofContent? c.source).bind fun source => some ⟨target, source, c.slice, c.aligned⟩

/-- A copy is what is written and a verb. -/
lemma copy?_eq (line : Text) :
    copy? line =
      (copyText? line).bind fun c => if isAssignment c.2 then c.1.copy? else none := by
  simp only [copyText?, Option.bind_assoc, Option.bind_some]
  rfl

/-- The target of a copy is the reference at the start of the line. -/
lemma leading?_of_copy? {line : Text} {c : Copy} (h : copy? line = some c) :
    ∃ rest, Reference.leading? line = some (c.target, rest) := by
  obtain ⟨⟨target, rest⟩, htarget, h⟩ := Option.bind_eq_some_iff.mp h
  obtain ⟨t, -, h⟩ := Option.bind_eq_some_iff.mp h
  obtain ⟨⟨source, t'⟩, -, h⟩ := Option.bind_eq_some_iff.mp h
  obtain ⟨verb, -, h⟩ := Option.bind_eq_some_iff.mp h
  dsimp only at h
  split at h
  next =>
    obtain ⟨r, hr, h⟩ := Option.bind_eq_some_iff.mp h
    obtain ⟨r', -, heq⟩ := Option.bind_eq_some_iff.mp h
    obtain rfl := Option.some.inj heq
    refine ⟨rest, ?_⟩
    rw [Reference.leading?, htarget]
    exact congrArg (Option.bind · fun r => some (r, rest)) hr
  next => cases h

/-- A line is no copy if no brackets stand where its source should. -/
lemma copy?_eq_none_of_leading? {line rest : Text} {r : Reference}
    (h : Reference.leading? line = some (r, rest))
    (hsource : ∀ t, after? "に" (trimStart rest) = some t →
      Reference.bracketed? (trimStart t) = none) :
    copy? line = none := by
  obtain ⟨⟨inside, behind⟩, hbracketed, h⟩ := Option.bind_eq_some_iff.mp h
  obtain ⟨r', -, heq⟩ := Option.bind_eq_some_iff.mp h
  obtain rfl : behind = rest := (Prod.mk.inj (Option.some.inj heq)).2
  rw [copy?_eq, copyText?, hbracketed, Option.bind_some]
  cases hbehind : after? "に" (trimStart behind) with
  | none => rfl
  | some t =>
    rw [Option.bind_some, hsource t hbehind]
    rfl

end Sentence

/-! ### The order of the rules -/

section Leading

variable {line rest entity label name : Text} {category : Char}

/-- The sentence behind the field of an entity. -/
lemma sentence?_field (h : Reference.leading? line = some (.field entity label, rest)) :
    sentence? line =
      if mentionsBlank rest && !Reference.occursIn rest then some (.field entity label .blank)
      else ((Sentence.numberValue? rest).map fun v => .field entity label v).or
        (((Sentence.copy? line).map .copy).or
          (((Sentence.assignedValue? rest).bind Sentence.quoted?).map fun t =>
            .field entity label (.text t))) := by
  obtain ⟨hopening, hcontinuation⟩ := Sentence.conditions_of_leading? h
  have htext : Sentence.textField? line =
      ((Sentence.assignedValue? rest).bind Sentence.quoted?).map fun t =>
        .field entity label (.text t) := by
    simp only [Sentence.textField?, h]
    cases hvalue : Sentence.assignedValue? rest with
    | none => rfl
    | some value => cases hquoted : Sentence.quoted? value <;> simp [hquoted]
  have hflag : Sentence.flagBit? line = none := by rw [Sentence.flagBit?, h]
  have hvariable : Sentence.variableValue? line = none := by rw [Sentence.variableValue?, h]
  cases hblank : mentionsBlank rest && !Reference.occursIn rest with
  | true =>
    simp [sentence?, recognize, rules, hopening, hcontinuation, Sentence.blankField?, h, hblank]
  | false =>
    have hnone : Sentence.blankField? line = none := by simp [Sentence.blankField?, h, hblank]
    have hnumber : Sentence.numberField? line =
        (Sentence.numberValue? rest).map fun v => .field entity label v := by
      rw [Sentence.numberField?, h]
    simp only [sentence?, recognize, rules, List.findSome?_cons, hopening, hcontinuation, hnone,
      hnumber, hflag, hvariable, htext]
    cases Sentence.numberValue? rest <;> cases Sentence.copy? line <;>
      cases (Sentence.assignedValue? rest).bind Sentence.quoted? <;> rfl

/-- The sentence behind a flag. -/
lemma sentence?_flag (h : Reference.leading? line = some (.flag name, rest)) :
    sentence? line =
      if Reference.occursIn rest then (Sentence.copy? line).map .copy
      else some ((Sentence.bit? rest).elim (.unsupported (trim rest)) fun value =>
        .flag name value) := by
  obtain ⟨hopening, hcontinuation⟩ := Sentence.conditions_of_leading? h
  cases hoccurs : Reference.occursIn rest with
  | true =>
    simp only [sentence?, recognize, rules, List.findSome?_cons, hopening, hcontinuation,
      Sentence.blankField?, Sentence.numberField?, Sentence.flagBit?, Sentence.variableValue?,
      Sentence.textField?, h, hoccurs]
    cases Sentence.copy? line <;> rfl
  | false =>
    simp only [sentence?, recognize, rules, List.findSome?_cons, hopening, hcontinuation,
      Sentence.blankField?, Sentence.numberField?, Sentence.flagBit?, h, hoccurs]
    cases Sentence.bit? rest <;> rfl

/-- The sentence behind a variable. -/
lemma sentence?_variable (h : Reference.leading? line = some (.variable category name, rest)) :
    sentence? line =
      if Reference.occursIn rest then (Sentence.copy? line).map .copy
      else some ((Sentence.variableExpression? rest).elim (.unsupported (trim rest)) fun value =>
        .variable (category :: name) value) := by
  obtain ⟨hopening, hcontinuation⟩ := Sentence.conditions_of_leading? h
  cases hoccurs : Reference.occursIn rest with
  | true =>
    simp only [sentence?, recognize, rules, List.findSome?_cons, hopening, hcontinuation,
      Sentence.blankField?, Sentence.numberField?, Sentence.flagBit?, Sentence.variableValue?,
      Sentence.textField?, h, hoccurs]
    cases Sentence.copy? line <;> rfl
  | false =>
    simp only [sentence?, recognize, rules, List.findSome?_cons, hopening, hcontinuation,
      Sentence.blankField?, Sentence.numberField?, Sentence.flagBit?, Sentence.variableValue?, h,
      hoccurs]
    cases Sentence.variableExpression? rest <;> rfl

/-- Without a reference a sentence is part of a condition. -/
lemma sentence?_of_leading?_eq_none (h : Reference.leading? line = none) :
    sentence? line = (Sentence.opening? line).or (Sentence.continuation? line) := by
  have hcopy : Sentence.copy? line = none := by
    refine Option.eq_none_iff_forall_ne_some.mpr fun c hc => ?_
    obtain ⟨behind, hbehind⟩ := Sentence.leading?_of_copy? hc
    rw [h] at hbehind
    cases hbehind
  simp only [sentence?, recognize, rules, List.findSome?_cons, Sentence.blankField?,
    Sentence.numberField?, Sentence.flagBit?, Sentence.variableValue?,
    Sentence.textField?, h, hcopy]
  cases Sentence.opening? line <;> cases Sentence.continuation? line <;> rfl

end Leading

end RuleSheet
