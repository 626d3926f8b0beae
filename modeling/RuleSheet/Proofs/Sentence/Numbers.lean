import RuleSheet.Proofs.Java.Integer
import RuleSheet.Proofs.Reference
import RuleSheet.Proofs.Text.Cuts
import RuleSheet.Proofs.Text.Trim
import RuleSheet.Sentence.Clause

/-!
# Numbers in sentences

A line that assigns a number to a field or to a variable consists of the reference, the digits, and
the words around them.  So no other rule applies to it, and the digits are taken over one by one, as
they are for an operand of a condition.

## Main definitions

* `RuleSheet.Sentence.isPlain` — blanks, digits, and the characters of the words around a value.

## Main results

* `RuleSheet.Sentence.all_isPlain_of_assignedValue?` — the characters behind the reference of a line
  that assigns a number.
* `RuleSheet.Sentence.recognize_numberField`, `recognize_numberVariable` — the sentences of such
  lines.
* `RuleSheet.Lexicon.resolve_number` — a number as an operand.
* `RuleSheet.number_tokens` — what is written for a number, and how Java reads it.
-/

set_option autoImplicit false

namespace RuleSheet

open Text

namespace Text

/-! ### Characters in trimmed texts -/

variable {p : Char → Bool}

/-- A class of characters that holds all blanks, and all characters of a text without the blanks at
its start, holds all characters of the text. -/
lemma all_of_trimStart (hblank : ∀ c, isBlank c = true → p c = true) {t : Text}
    (h : (trimStart t).all p = true) : t.all p = true := by
  rw [← List.takeWhile_append_dropWhile (p := isBlank) (l := t), List.all_append, Bool.and_eq_true]
  refine ⟨List.all_eq_true.mpr fun c hc => hblank c (List.mem_takeWhile_imp hc), h⟩

/-- The same with the blanks at both ends. -/
lemma all_of_trim (hblank : ∀ c, isBlank c = true → p c = true) {t : Text}
    (h : (trim t).all p = true) : t.all p = true := by
  rw [List.all_eq_true] at h ⊢
  rcases forall_or_surround isBlank t with hall | ⟨s, body, u, rfl, hs, hbody, hu⟩
  · exact fun c hc => hblank c (hall c hc)
  · rw [trim, trimBy_surround hs hbody hu] at h
    simp only [List.mem_append]
    rintro c ((hc | hc) | hc)
    · exact hblank c (hs c hc)
    · exact h c hc
    · exact hblank c (hu c hc)

end Text

namespace Sentence

/-! ### The characters of a sentence that assigns a number -/

/-- The characters of the words around a value. -/
def frame : Text := "にを右左詰で代入しますする。．.＝="

/-- Blanks, digits, and the characters of the words around a value. -/
def isPlain (c : Char) : Bool := isBlank c || isDigit c || decide (c ∈ frame)

lemma isPlain_of_isBlank {c : Char} (h : isBlank c = true) : isPlain c = true := by
  simp [isPlain, h]

lemma isPlain_of_isDigit {c : Char} (h : isDigit c = true) : isPlain c = true := by
  simp [isPlain, h]

lemma isPlain_of_isStop {c : Char} (h : isStop c = true) : isPlain c = true := by
  simp only [isStop, Bool.or_eq_true, decide_eq_true_eq] at h
  rcases h with (rfl | rfl) | rfl <;> decide

lemma all_isPlain_of_isNumber {d : Text} (hd : isNumber d = true) : d.all isPlain = true := by
  rw [isNumber, Bool.and_eq_true, List.all_eq_true] at hd
  exact List.all_eq_true.mpr fun c hc => isPlain_of_isDigit (hd.2 c hc)

/-- The words that a mark starts with, and what is behind them. -/
lemma all_isPlain_of_after? {mark t rest : Text} (h : after? mark t = some rest)
    (hmark : mark.all isPlain = true) (hrest : rest.all isPlain = true) : t.all isPlain = true := by
  rw [(after?_eq_some_iff _ _ _).mp h, List.all_append, hmark, hrest]
  rfl

/-- The end of a sentence. -/
lemma all_isPlain_of_isOver {t : Text} (h : isOver t = true) : t.all isPlain = true := by
  refine all_of_trimStart (fun _ => isPlain_of_isBlank) ?_
  unfold isOver at h
  split at h
  next heq => rw [heq]; rfl
  next c heq => simp [heq, isPlain_of_isStop h]
  next => cases h

/-- The verb of assignment. -/
lemma all_isPlain_of_isAssignment {t : Text} (h : isAssignment t = true) :
    t.all isPlain = true := by
  unfold isAssignment at h
  split at h
  next => cases h
  next rest hverb =>
    refine all_isPlain_of_after? hverb (by decide) ?_
    rw [Option.orElse_eq_orElse, Option.orElse_eq_or] at h
    cases hlong : after? "します" rest with
    | some behind =>
      rw [hlong] at h
      exact all_isPlain_of_after? hlong (by decide) (all_isPlain_of_isOver h)
    | none =>
      cases hshort : after? "する" rest with
      | some behind =>
        rw [hlong, hshort] at h
        exact all_isPlain_of_after? hshort (by decide) (all_isPlain_of_isOver h)
      | none =>
        rw [hlong, hshort] at h
        exact all_isPlain_of_isOver h

/-- An alignment, and what is behind it. -/
lemma all_isPlain_of_alignment {t : Text} (h : (alignment t).2.all isPlain = true) :
    t.all isPlain = true := by
  unfold alignment at h
  split at h
  next hright => exact all_isPlain_of_after? hright (by decide) h
  next hleft => exact all_isPlain_of_after? hleft (by decide) h
  next => exact h

/-- A stretch of text whose operand is a number. -/
lemma all_isPlain_of_operand? {stretch d : Text} (hd : isNumber d = true)
    (h : operand? stretch = some d) : stretch.all isPlain = true := by
  refine all_of_trim (fun _ => isPlain_of_isBlank) ?_
  unfold operand? at h
  split at h
  next hnil => rw [hnil]; rfl
  next =>
    split at h
    next => cases h
    next =>
      rw [Option.some.inj h]
      exact all_isPlain_of_isNumber hd

/-- What stands behind a reference that a number is assigned to with the verb. -/
lemma all_isPlain_of_assignedTo? {rest d : Text} (hd : isNumber d = true)
    (h : assignedTo? rest = some d) : rest.all isPlain = true := by
  obtain ⟨body, hbody, h⟩ := Option.bind_eq_some_iff.mp h
  obtain ⟨⟨stretch, verb⟩, hcut, h⟩ := Option.bind_eq_some_iff.mp h
  dsimp only at h
  split at h
  next hverb =>
    have hwo : ("を" : Text).all isPlain = true := by decide
    refine all_of_trim (fun _ => isPlain_of_isBlank) (all_isPlain_of_after? hbody (by decide) ?_)
    rw [eq_of_cutLast? hcut, List.all_append, List.all_append, all_isPlain_of_operand? hd h, hwo,
      all_isPlain_of_alignment (all_isPlain_of_isAssignment hverb)]
    rfl
  next => cases h

/-- A text from which a stop was dropped. -/
lemma all_isPlain_of_dropStop {t : Text} (h : (dropStop t).all isPlain = true) :
    t.all isPlain = true := by
  unfold dropStop at h
  split at h
  next => exact h
  next c hlast =>
    split at h
    next hstop =>
      obtain ⟨front, rfl⟩ := List.getLast?_eq_some_iff.mp hlast
      rw [List.dropLast_concat] at h
      obtain ⟨u, hu, hfront⟩ := exists_trimEndBy isBlank front
      have hblanks : u.all isPlain = true :=
        List.all_eq_true.mpr fun d hd => isPlain_of_isBlank (hu d hd)
      have hfrontPlain : front.all isPlain = true := by
        rw [← hfront, List.all_append, hblanks, Bool.and_true]
        exact h
      simp [List.all_append, hfrontPlain, isPlain_of_isStop hstop.1]
    next => exact h

/-- What stands behind a reference that a number is assigned to with the sign. -/
lemma all_isPlain_of_equalsValue? {rest d : Text} (hd : isNumber d = true)
    (h : equalsValue? rest = some d) : rest.all isPlain = true := by
  refine all_of_trim (fun _ => isPlain_of_isBlank) ?_
  unfold equalsValue? at h
  split at h
  next => cases h
  next c body htrim =>
    dsimp only at h
    split at h
    next hsign =>
      have hbody : body.all isPlain = true := by
        refine all_of_trimStart (fun _ => isPlain_of_isBlank) (all_isPlain_of_dropStop ?_)
        rw [Option.some.inj h]
        exact all_isPlain_of_isNumber hd
      have hc : isPlain c = true := by rcases hsign.1 with rfl | rfl <;> decide
      rw [htrim, List.all_cons, hc, hbody]
      rfl
    next => cases h

/-- **The characters behind the reference of a line that assigns a number.** -/
lemma all_isPlain_of_assignedValue? {rest d : Text} (hd : isNumber d = true)
    (h : assignedValue? rest = some d) : rest.all isPlain = true := by
  rw [assignedValue?, Option.orElse_eq_orElse, Option.orElse_eq_or] at h
  rcases Option.or_eq_some_iff.mp h with hverb | ⟨-, hsign⟩
  · exact all_isPlain_of_assignedTo? hd hverb
  · exact all_isPlain_of_equalsValue? hd hsign

/-! ### What a plain text does not hold -/

/-- A character that is not plain does not stand in a plain text. -/
lemma not_mem_of_all_isPlain {t : Text} (ht : t.all isPlain = true) {c : Char}
    (hc : isPlain c = false) : c ∉ t := by
  intro hmem
  rw [List.all_eq_true.mp ht c hmem] at hc
  cases hc

/-- What opens no bracket in front of a text makes no difference to what stands in brackets. -/
lemma contentsFrom_append_left {u : Text} (hu : '「' ∉ u) (t : Text) :
    Reference.contentsFrom none (u ++ t) = Reference.contentsFrom none t := by
  induction u with
  | nil => rfl
  | cons c u ih =>
    rw [List.mem_cons, not_or] at hu
    rw [List.cons_append, Reference.contentsFrom, if_neg (Ne.symm hu.1)]
    exact ih hu.2

/-- A text without opening brackets holds no reference. -/
lemma contentsFrom_of_not_mem {t : Text} (h : '「' ∉ t) : Reference.contentsFrom none t = [] := by
  rw [← List.append_nil t, contentsFrom_append_left h]
  rfl

lemma occursIn_of_all_isPlain {t : Text} (ht : t.all isPlain = true) :
    Reference.occursIn t = false := by
  rw [Reference.occursIn, contentsFrom_of_not_mem (not_mem_of_all_isPlain ht (by decide))]
  rfl

/-- A text without a character of a mark does not hold the mark. -/
lemma contains_of_not_mem {t mark : Text} {c : Char} (hmark : c ∈ mark) (hc : c ∉ t) :
    Text.contains t mark = false := by
  cases hcut : cut? mark t with
  | none => rw [Text.contains, hcut]; rfl
  | some sides =>
    rw [eq_of_cut? hcut] at hc
    simp [hmark] at hc

lemma mentionsBlank_of_all_isPlain {t : Text} (ht : t.all isPlain = true) :
    mentionsBlank t = false := by
  have hwide : Text.contains t "ブランク" = false :=
    contains_of_not_mem (by decide : 'ク' ∈ ("ブランク" : Text))
      (not_mem_of_all_isPlain ht (by decide))
  have hnarrow : Text.contains t "ﾌﾞﾗﾝｸ" = false :=
    contains_of_not_mem (by decide : 'ｸ' ∈ ("ﾌﾞﾗﾝｸ" : Text))
      (not_mem_of_all_isPlain ht (by decide))
  rw [mentionsBlank, blankWords, List.any_cons, List.any_cons, hwide, hnarrow]
  rfl

/-- A quote around a bit is not plain. -/
lemma isPlain_of_isBitQuote {c : Char} (h : isBitQuote c = true) : isPlain c = false := by
  simp only [isBitQuote, Bool.or_eq_true, decide_eq_true_eq] at h
  rcases h with ((rfl | rfl) | rfl) | rfl <;> decide

/-- A text without the quotes of bits has no bit. -/
lemma bit?_of_forall {t : Text} (ht : ∀ c ∈ t, isBitQuote c = false) : bit? t = none := by
  induction t with
  | nil => rfl
  | cons c t ih =>
    have hhere : bitHere? (c :: t) = none := by
      unfold bitHere?
      split
      next heq =>
        obtain ⟨rfl, -⟩ := List.cons.inj heq
        simp [ht c List.mem_cons_self]
      next => rfl
    rw [bit?, hhere, ih fun d hd => ht d (List.mem_cons_of_mem c hd)]
    rfl

lemma bit?_of_all_isPlain {t : Text} (ht : t.all isPlain = true) : bit? t = none := by
  refine bit?_of_forall fun c hc => ?_
  by_contra hquote
  have hplain := List.all_eq_true.mp ht c hc
  rw [isPlain_of_isBitQuote (by simpa using hquote)] at hplain
  cases hplain

/-! ### The sentences of lines that assign a number -/

/-- A line starts with the brackets of its reference, and so with no mark of a condition. -/
lemma conditions_of_leading? {line rest : Text} {r : Reference}
    (h : Reference.leading? line = some (r, rest)) :
    opening? line = none ∧ continuation? line = none := by
  obtain ⟨⟨inside, behind⟩, hbracketed, -⟩ := Option.bind_eq_some_iff.mp h
  obtain ⟨⟨mark, hmark, rfl⟩, -⟩ := (Reference.bracketed?_eq_some_iff _ _ _).mp hbracketed
  simp only [Reference.openings, List.mem_cons, List.not_mem_nil, or_false] at hmark
  rcases hmark with rfl | rfl <;> exact ⟨rfl, rfl⟩

/-- A sentence with the verb has no sign of equality. -/
lemma equalsValue?_of_assignedTo? {rest d : Text} (h : assignedTo? rest = some d) :
    equalsValue? rest = none := by
  obtain ⟨body, hbody, -⟩ := Option.bind_eq_some_iff.mp h
  have htrim : trim rest = 'に' :: body := (after?_eq_some_iff _ _ _).mp hbody
  simp [equalsValue?, htrim]

/-- The number that a line assigns to a field. -/
lemma numberValue?_of_assignedValue? {rest d : Text} (hd : isNumber d = true)
    (h : assignedValue? rest = some d) : numberValue? rest = some (.number (foldDigits d)) := by
  rw [assignedValue?, Option.orElse_eq_orElse, Option.orElse_eq_or] at h
  rcases Option.or_eq_some_iff.mp h with hverb | ⟨-, hsign⟩
  · simp [numberValue?, equalsValue?_of_assignedTo? hverb, hverb, hd]
  · simp [numberValue?, hsign, equalsNumber?, hd]

/-- **A line that assigns a number to a field.** -/
lemma recognize_numberField {line rest entity label d : Text} (hd : isNumber d = true)
    (hleading : Reference.leading? line = some (.field entity label, rest))
    (h : assignedValue? rest = some d) :
    recognize line =
      some (("numeric_assignment" : Text), .field entity label (.number (foldDigits d))) := by
  obtain ⟨hopening, hcontinuation⟩ := conditions_of_leading? hleading
  have hblank : blankField? line = none := by
    simp [blankField?, hleading,
      mentionsBlank_of_all_isPlain (all_isPlain_of_assignedValue? hd h)]
  have hnumber : numberField? line = some (.field entity label (.number (foldDigits d))) := by
    simp [numberField?, hleading, numberValue?_of_assignedValue? hd h]
  simp [recognize, rules, hopening, hcontinuation, hblank, hnumber]

/-- The expression of a number that a line assigns to a variable. -/
lemma variableExpression?_of_assignedValue? {rest d : Text} (hd : isNumber d = true)
    (h : assignedValue? rest = some d) : variableExpression? rest = some (foldDigits d) := by
  have hplain := all_isPlain_of_assignedValue? hd h
  simp [variableExpression?, mentionsBlank_of_all_isPlain hplain, bit?_of_all_isPlain hplain, h, hd]

/-- **A line that assigns a number to a variable.** -/
lemma recognize_numberVariable {line rest name d : Text} {category : Char} (hd : isNumber d = true)
    (hleading : Reference.leading? line = some (.variable category name, rest))
    (h : assignedValue? rest = some d) :
    recognize line =
      some (("direct_assignment" : Text), .variable (category :: name) (foldDigits d)) := by
  obtain ⟨hopening, hcontinuation⟩ := conditions_of_leading? hleading
  have hblank : blankField? line = none := by simp [blankField?, hleading]
  have hnumber : numberField? line = none := by simp [numberField?, hleading]
  have hflag : flagBit? line = none := by simp [flagBit?, hleading]
  have hvariable : variableValue? line = some (.variable (category :: name) (foldDigits d)) := by
    simp [variableValue?, hleading, occursIn_of_all_isPlain (all_isPlain_of_assignedValue? hd h),
      variableExpression?_of_assignedValue? hd h]
  simp [recognize, rules, hopening, hcontinuation, hblank, hnumber, hflag, hvariable]

end Sentence

/-! ### Numbers as operands -/

namespace Text

/-- Digits are no blanks. -/
lemma not_isBlank_of_isDigit {c : Char} (h : isDigit c = true) : isBlank c = false := by
  have hrange : 48 ≤ c.toNat ∧ c.toNat ≤ 57 ∨ 65296 ≤ c.toNat ∧ c.toNat ≤ 65305 := by
    simpa [isDigit, isAsciiDigit, isWideDigit, Char.le_def, UInt32.le_iff_toNat_le] using h
  cases hblank : isBlank c with
  | false => rfl
  | true =>
    simp only [isBlank, Bool.or_eq_true, Bool.and_eq_true, decide_eq_true_eq] at hblank
    omega

/-- A number has no blanks at its ends. -/
lemma trim_of_isNumber {d : Text} (hd : isNumber d = true) : trim d = d := by
  rw [isNumber, Bool.and_eq_true, List.all_eq_true] at hd
  have hnot : ∀ c ∈ d, isBlank c = false := fun c hc => not_isBlank_of_isDigit (hd.2 c hc)
  have hne : d ≠ [] := by simpa using hd.1
  obtain ⟨c, rest, hfirst⟩ := List.exists_cons_of_ne_nil hne
  obtain ⟨front, e, hlast⟩ := (List.eq_nil_or_concat' d).resolve_left hne
  have hbare : Bare isBlank d :=
    ⟨⟨c, rest, hfirst, hnot c (by simp [hfirst])⟩, ⟨front, e, hlast, hnot e (by simp [hlast])⟩⟩
  exact hbare.trimBy_eq

/-- No mark that starts with another character stands in front of a number. -/
lemma after?_of_isNumber {d : Text} (hd : isNumber d = true) {c : Char} (hc : isDigit c = false)
    (mark : Text) : after? (c :: mark) d = none := by
  refine Option.eq_none_iff_forall_ne_some.mpr fun rest h => ?_
  rw [(after?_eq_some_iff _ _ _).mp h, isNumber, Bool.and_eq_true, List.all_eq_true] at hd
  rw [hd.2 c (by simp)] at hc
  cases hc

/-- A number consists of zeros exactly if its value is zero. -/
lemma all_zero_foldDigits_iff {t : Text} (ht : ∀ c ∈ t, isDigit c = true) :
    (foldDigits t).all (· = '0') = true ↔ numberValue t = 0 := by
  induction t using List.reverseRecOn with
  | nil => decide
  | append_singleton t c ih =>
    have hzero := Java.foldDigit_eq_zero_iff (ht c (by simp))
    have hfront := ih fun d hd => ht d (by simp [hd])
    rw [foldDigits_concat, List.all_append, Bool.and_eq_true, hfront, numberValue_concat]
    simp only [List.all_cons, List.all_nil, Bool.and_true, decide_eq_true_eq, hzero]
    omega

end Text

namespace Lexicon

/-- **A number as an operand.** -/
lemma resolve_number {d operand : Text} (hd : isNumber d = true) (h : trim operand = d)
    (tree : FileTree) (l : Lexicon) :
    l.resolve tree operand = (.ok ⟨foldDigits d, none⟩, l) := by
  have hbracketed : Reference.bracketed? d = none := by
    have hword : after? "項目「" d = none := after?_of_isNumber hd (by decide) "目「"
    have hbracket : after? "「" d = none := after?_of_isNumber hd (by decide) []
    rw [Reference.bracketed?, hword, hbracket]
    rfl
  have htoken : Reference.ofToken? d = none := by
    rw [Reference.ofToken?, trim_of_isNumber hd, hbracketed]
  have hblank : isBlankWord d = false := by
    have hwide : d ≠ ("ブランク" : Text) := by rintro rfl; cases hd
    have hnarrow : d ≠ ("ﾌﾞﾗﾝｸ" : Text) := by rintro rfl; cases hd
    rw [isBlankWord, trim_of_isNumber hd, blankWords, List.any_cons, List.any_cons,
      decide_eq_false hwide, decide_eq_false hnarrow]
    rfl
  simp [resolve, h, htoken, hblank, hd]

end Lexicon

/-! ### What is written for a number -/

/-- The clause of a line that assigns a number to a field: zero is no date, and any other number is
taken over. -/
lemma classify_numberField {line rest entity label d : Text} (hd : isNumber d = true)
    (hleading : Reference.leading? line = some (.field entity label, rest))
    (h : Sentence.assignedValue? rest = some d) {tree : FileTree} {l : Lexicon} {target : Target}
    (hfield : (l.field tree entity label).1 = .ok target) (helpers : Helpers) :
    (classify tree helpers line l).1 =
      target.assign
        (if numberValue d = 0 ∧ target.field.type = .date then "null" else foldDigits d) := by
  have hdigits : ∀ c ∈ d, isDigit c = true := by
    rw [isNumber, Bool.and_eq_true, List.all_eq_true] at hd
    exact hd.2
  obtain ⟨after, hpair⟩ : ∃ after, l.field tree entity label = (.ok target, after) :=
    ⟨_, Prod.ext hfield rfl⟩
  rw [classify, Sentence.recognize_numberField hd hleading h]
  simp only [Sentence.clause, hpair, Sentence.fieldClause, all_zero_foldDigits_iff hdigits]
  split <;> rfl

/-- **What is written for a number, and how Java reads it.**  An operand, a value for a field and a
value for a variable are written with the digits of the number, one by one; only zero as a date is
`null`.  Java reads these digits as the number exactly if there is no zero in front of others, or
the number is below eight. -/
theorem number_tokens {d : Text} (hd : isNumber d = true) :
    (∀ (tree : FileTree) (l : Lexicon) (operand : Text), trim operand = d →
      l.resolve tree operand = (.ok ⟨foldDigits d, none⟩, l)) ∧
    (∀ line rest entity label : Text,
      Reference.leading? line = some (.field entity label, rest) →
      Sentence.assignedValue? rest = some d →
      (recognize line).map (·.1) = some ("numeric_assignment" : Text) ∧
        ∀ (tree : FileTree) (helpers : Helpers) (l : Lexicon) (target : Target),
          (l.field tree entity label).1 = .ok target →
          (classify tree helpers line l).1 =
            target.assign
              (if numberValue d = 0 ∧ target.field.type = .date then "null" else foldDigits d)) ∧
    (∀ (line rest name : Text) (category : Char),
      Reference.leading? line = some (.variable category name, rest) →
      Sentence.assignedValue? rest = some d →
      (recognize line).map (·.1) = some ("direct_assignment" : Text) ∧
        ∀ (tree : FileTree) (helpers : Helpers) (l : Lexicon),
          (classify tree helpers line l).1 =
            .statement (.setVariable (category :: name) (foldDigits d))) ∧
    (Java.integer? (foldDigits d) = some (numberValue d) ↔ ¬ Padded d ∨ numberValue d < 8) := by
  refine ⟨fun tree l operand h => l.resolve_number hd h tree, ?_, ?_,
    Java.integer?_foldDigits_iff hd⟩
  · intro line rest entity label hleading h
    refine ⟨by rw [Sentence.recognize_numberField hd hleading h]; rfl, ?_⟩
    intro tree helpers l target hfield
    exact classify_numberField hd hleading h hfield helpers
  · intro line rest name category hleading h
    have hrecognize := Sentence.recognize_numberVariable hd hleading h
    refine ⟨by rw [hrecognize]; rfl, fun tree helpers l => ?_⟩
    rw [classify, hrecognize]
    rfl

/-- A lexicon that knows one hat with one field. -/
def hatLexicon : Lexicon :=
  .ofCatalog ((Catalog.ofSources .empty).withEntity "帽子" ⟨some "Hat", [.ofColumn "hue" "色"]⟩) .empty

/-- A number of both widths as an operand, for a field and for a variable. -/
theorem number_tokens_twelve :
    isNumber "１2" = true ∧
      (hatLexicon.resolve ⟨.empty⟩ " １2").1 = .ok ⟨"12", none⟩ ∧
      (classify ⟨.empty⟩ {} "項目「帽子.(色)」に１2を代入する。" hatLexicon).1 =
        .statement (.setField "hat.setHue" "12" (some "色")) ∧
      (classify ⟨.empty⟩ {} "項目「D\\区分」＝１2。" hatLexicon).1 =
        .statement (.setVariable "D区分" "12") ∧
      ¬ Padded "１2" ∧ Java.integer? "12" = some 12 := by
  have hd : isNumber "１2" = true := by decide
  obtain ⟨hresolve, hfield, hvariable, hvalue⟩ := number_tokens hd
  have hpadded : ¬ Padded "１2" := by
    rintro ⟨c, rest, h, hc, -⟩
    obtain ⟨rfl, -⟩ := List.cons.inj h
    cases hc
  refine ⟨hd, congrArg Prod.fst (hresolve ⟨.empty⟩ hatLexicon " １2" (by decide)), ?_, ?_, hpadded,
    hvalue.mpr (.inl hpadded)⟩
  · exact (hfield _ "に１2を代入する。" "帽子" "色" (by decide +kernel) (by decide +kernel)).2 _ _ _
      ⟨"hat", .ofColumn "hue" "色"⟩ (by decide +kernel)
  · exact (hvariable _ "＝１2。" "区分" 'D' (by decide +kernel) (by decide +kernel)).2 _ _ _

/-- With a zero in front the digits are read in base eight: ten becomes eight, and eight is not read
at all. -/
theorem number_tokens_padded :
    isNumber "０１０" = true ∧ numberValue "０１０" = 10 ∧
      (classify ⟨.empty⟩ {} "項目「D\\区分」＝０１０。" hatLexicon).1 =
        .statement (.setVariable "D区分" "010") ∧
      Java.integer? "010" = some 8 ∧
      isNumber "０８" = true ∧ (hatLexicon.resolve ⟨.empty⟩ "０８").1 = .ok ⟨"08", none⟩ ∧
      Java.integer? "08" = none := by
  decide +kernel

end RuleSheet
