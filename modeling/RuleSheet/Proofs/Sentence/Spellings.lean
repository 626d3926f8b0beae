import Mathlib.Data.List.Forall2
import RuleSheet.Proofs.Sentence.Literals
import RuleSheet.Proofs.Sentence.Numbers

/-!
# Spellings of a number for a field

A line can give a number to a field with a sign of equality of either width, with white space behind
it or without, or with the verb in one of three forms; a full stop may end it.  All of these come to
the same statement, which depends on the field and on the values of the digits only.  A run of zeros
is no date.

## Main definitions

* `RuleSheet.AssignsNumber` — the spellings of a line that gives a number to what it refers to.
* `RuleSheet.Text.InAscii` — the same digits in ASCII, one by one.
* `RuleSheet.NumberGiven` — what becomes of such a line.

## Main results

* `RuleSheet.AssignsNumber.exists_rest` — every spelling assigns the number.
* `RuleSheet.Text.inAscii_iff` — there is one text with the same digits in ASCII.
* `RuleSheet.classify_assignsNumber` — all spellings come to the same.
-/

set_option autoImplicit false

namespace RuleSheet

open Text

/-! ### Digits of either width -/

namespace Text

/-- The second text has the digits of the first one in ASCII, one by one. -/
def InAscii (d digits : Text) : Prop :=
  List.Forall₂ (fun c e => e.toNat = '0'.toNat + digitValue c ∧ digitValue c < 10) d digits

/-- **There is one text with the same digits in ASCII.** -/
lemma inAscii_iff {d : Text} (hd : ∀ c ∈ d, isDigit c = true) (digits : Text) :
    InAscii d digits ↔ digits = foldDigits d := by
  induction d generalizing digits with
  | nil => exact List.forall₂_nil_left_iff
  | cons c d ih =>
    obtain ⟨hvalue, hten⟩ := toNat_foldDigit (hd c List.mem_cons_self)
    have hrest (digits : Text) := ih (fun e he => hd e (List.mem_cons_of_mem c he)) digits
    have hcons : foldDigits (c :: d) = foldDigit c :: foldDigits d := rfl
    rw [InAscii, List.forall₂_cons_left_iff, hcons]
    constructor
    · rintro ⟨e, more, ⟨he, -⟩, hmore, rfl⟩
      rw [(hrest more).mp hmore, Char.toNat_inj.mp (he.trans hvalue.symm)]
    · rintro rfl
      exact ⟨foldDigit c, foldDigits d, ⟨hvalue, hten⟩, (hrest _).mpr rfl, rfl⟩

/-- The digits of value zero. -/
lemma digitValue_eq_zero_iff {c : Char} (hc : isDigit c = true) :
    digitValue c = 0 ↔ c = '0' ∨ c = '０' := by
  have hzero : '0'.toNat = 48 := rfl
  have hwideZero : '０'.toNat = 65296 := rfl
  have hrange : 48 ≤ c.toNat ∧ c.toNat ≤ 57 ∨ 65296 ≤ c.toNat ∧ c.toNat ≤ 65305 := by
    simpa [isDigit, isAsciiDigit, isWideDigit, Char.le_def, UInt32.le_iff_toNat_le] using hc
  have hwide : isWideDigit c = true ↔ 65296 ≤ c.toNat ∧ c.toNat ≤ 65305 := by
    simp [isWideDigit, Char.le_def, UInt32.le_iff_toNat_le]
  rw [digitValue, ← Char.toNat_inj, ← Char.toNat_inj]
  split
  next h =>
    have := hwide.mp h
    omega
  next h =>
    have := mt hwide.mpr h
    omega

/-- A run of zeros of either width. -/
lemma all_zero_foldDigits {d : Text} (hd : ∀ c ∈ d, isDigit c = true) :
    (foldDigits d).all (· = '0') = true ↔ ∀ c ∈ d, c = '0' ∨ c = '０' := by
  rw [foldDigits, List.all_map, List.all_eq_true]
  refine forall₂_congr fun c hc => ?_
  rw [Function.comp_apply, decide_eq_true_iff, Java.foldDigit_eq_zero_iff (hd c hc),
    digitValue_eq_zero_iff (hd c hc)]

end Text

/-! ### The value of a line -/

/-- The ways to end a sentence. -/
def stops : List Text := [[], "。", "．", "."]

/-- The forms of the verb. -/
def verbs : List Text := ["代入", "代入する", "代入します"]

/-- A line that gives a number to what it refers to. -/
inductive AssignsNumber (ref d : Text) : Text → Prop
  /-- With a sign of equality. -/
  | sign {sign : Char} {gap stop : Text} (hsign : sign = '＝' ∨ sign = '=')
      (hgap : ∀ c ∈ gap, isBlank c = true) (hstop : stop ∈ stops) :
      AssignsNumber ref d (ref ++ sign :: (gap ++ (d ++ stop)))
  /-- With the verb. -/
  | verb {verb stop : Text} (hverb : verb ∈ verbs) (hstop : stop ∈ stops) :
      AssignsNumber ref d (ref ++ 'に' :: (d ++ 'を' :: (verb ++ stop)))

section Value

variable {ref d line : Text}

/-- A run of digits has no blanks at its ends. -/
lemma bare_of_isNumber (hd : isNumber d = true) : Bare isBlank d := by
  refine bare_of_trimBy (trim_of_isNumber hd) ?_
  rintro rfl
  cases hd

/-- No character of a run of digits ends a sentence or a line. -/
lemma not_stop_of_isDigit {c : Char} (hc : isDigit c = true) :
    Sentence.isStop c = false ∧ c ≠ '\n' := by
  constructor
  · refine Bool.eq_false_iff.mpr fun hstop => ?_
    simp only [Sentence.isStop, Bool.or_eq_true, decide_eq_true_eq] at hstop
    rcases hstop with (rfl | rfl) | rfl <;> cases hc
  · rintro rfl
    cases hc

/-- The value behind a sign of equality. -/
lemma equalsValue?_number (hd : isNumber d = true) {sign : Char} {gap stop : Text}
    (hsign : sign = '＝' ∨ sign = '=') (hgap : ∀ c ∈ gap, isBlank c = true) (hstop : stop ∈ stops) :
    Sentence.equalsValue? (sign :: (gap ++ (d ++ stop))) = some d := by
  have hbare := bare_of_isNumber hd
  obtain ⟨hne, hdigits⟩ : d ≠ [] ∧ ∀ c ∈ d, isDigit c = true := by
    simpa [isNumber] using hd
  have hline : '\n' ∉ d := fun hmem => (not_stop_of_isDigit (hdigits _ hmem)).2 rfl
  obtain ⟨hwhole, hdrop⟩ : Bare isBlank (d ++ stop) ∧ Sentence.dropStop (d ++ stop) = d := by
    simp only [stops, List.mem_cons, List.not_mem_nil, or_false] at hstop
    rcases hstop with rfl | hstop
    · -- the last digit is no stop
      rw [List.append_nil]
      obtain ⟨front, c, rfl, -⟩ := hbare.last
      have hlast := (not_stop_of_isDigit (hdigits c (by simp))).1
      exact ⟨hbare, by simp [Sentence.dropStop, hlast]⟩
    · obtain ⟨c, rfl, hc, hblank⟩ :
          ∃ c, stop = [c] ∧ Sentence.isStop c = true ∧ isBlank c = false := by
        rcases hstop with rfl | rfl | rfl <;> exact ⟨_, rfl, by decide, by decide⟩
      exact ⟨by simpa using hbare.append (bare_singleton hblank) [],
        Sentence.dropStop_append_stop hbare hc⟩
  exact Sentence.equalsValue?_eq hsign hgap hne hline hwhole hdrop

/-- The value that the verb assigns. -/
lemma assignedTo?_number (hd : isNumber d = true) {verb stop : Text} (hverb : verb ∈ verbs)
    (hstop : stop ∈ stops) :
    Sentence.assignedTo? ('に' :: (d ++ 'を' :: (verb ++ stop))) = some d := by
  have hline : '\n' ∉ d := fun hmem => by
    rw [isNumber, Bool.and_eq_true, List.all_eq_true] at hd
    exact (not_stop_of_isDigit (hd.2 _ hmem)).2 rfl
  obtain ⟨htrim, hne, hlast, hassigns⟩ : trim (verb ++ stop) = verb ++ stop ∧ verb ++ stop ≠ [] ∧
      'を' ∉ verb ++ stop ∧ Sentence.isAssignment (Sentence.alignment (verb ++ stop)).2 = true := by
    simp only [verbs, stops, List.mem_cons, List.not_mem_nil, or_false] at hverb hstop
    rcases hverb with rfl | rfl | rfl <;> rcases hstop with rfl | rfl | rfl | rfl <;> decide
  exact Sentence.assignedTo?_eq (bare_of_isNumber hd) hline
    (bare_of_trimBy htrim hne) hlast hassigns

/-- **Every spelling assigns the number.** -/
lemma AssignsNumber.exists_rest (h : AssignsNumber ref d line) (hd : isNumber d = true) :
    ∃ rest, line = ref ++ rest ∧ Sentence.assignedValue? rest = some d := by
  cases h with
  | sign hsign hgap hstop =>
    refine ⟨_, rfl, ?_⟩
    have hequals := equalsValue?_number hd hsign hgap hstop
    rw [Sentence.assignedValue?, Option.orElse_eq_orElse, Option.orElse_eq_or]
    refine Option.or_eq_some_iff.mpr (.inr ⟨?_, hequals⟩)
    refine Option.eq_none_iff_forall_ne_some.mpr fun value hvalue => ?_
    rw [Sentence.equalsValue?_of_assignedTo? hvalue] at hequals
    cases hequals
  | verb hverb hstop =>
    refine ⟨_, rfl, ?_⟩
    rw [Sentence.assignedValue?, assignedTo?_number hd hverb hstop]
    rfl

end Value

/-! ### What becomes of a line -/

/-- What becomes of a line that gives a number to a field, with the lexicon afterwards. -/
inductive NumberGiven (tree : FileTree) (l : Lexicon) (entity label d line : Text) :
    Clause × Lexicon → Prop
  /-- The field is not found, and the line is left to do by hand. -/
  | missed {reason : Obstacle} {l₁ : Lexicon}
      (h : l.field tree entity label = (.error reason, l₁)) :
      NumberGiven tree l entity label d line (.statement (.todo line reason), l₁)
  /-- Zeros are no date. -/
  | noDate {target : Target} {l₁ : Lexicon} (h : l.field tree entity label = (.ok target, l₁))
      (hdate : target.field.type = .date) (hzero : ∀ c ∈ d, c = '0' ∨ c = '０') :
      NumberGiven tree l entity label d line
        (.statement (.setField target.setter "null" (some target.field.label)), l₁)
  /-- Any other number is written in ASCII digits. -/
  | digits {target : Target} {l₁ : Lexicon} {digits : Text}
      (h : l.field tree entity label = (.ok target, l₁))
      (hvalue : target.field.type = .date → ∃ c ∈ d, c ≠ '0' ∧ c ≠ '０')
      (hdigits : InAscii d digits) :
      NumberGiven tree l entity label d line
        (.statement (.setField target.setter digits (some target.field.label)), l₁)

section Clause

variable {tree : FileTree} {helpers : Helpers} {l : Lexicon} {entity label d line : Text}

/-- The clause of a number for a field. -/
lemma clause_number_eq_iff (hd : ∀ c ∈ d, isDigit c = true) (result : Clause × Lexicon) :
    (Sentence.field entity label (.number (foldDigits d))).clause tree helpers line l = result ↔
      NumberGiven tree l entity label d line result := by
  have hzeros := all_zero_foldDigits hd
  have hvalue (target : Target) :
      ¬ ((foldDigits d).all (· = '0') = true ∧ target.field.type = .date) ↔
        (target.field.type = .date → ∃ c ∈ d, c ≠ '0' ∧ c ≠ '０') := by
    rw [hzeros, not_and']
    exact imp_congr_right fun _ => by simp
  constructor
  · rintro rfl
    rcases hfield : l.field tree entity label with ⟨reason | target, l₁⟩
    · simp only [Sentence.clause, hfield]
      exact .missed hfield
    · simp only [Sentence.clause, hfield, Sentence.fieldClause]
      split
      next h => exact .noDate hfield h.2 (hzeros.mp h.1)
      next h => exact .digits hfield ((hvalue target).mp h) ((inAscii_iff hd _).mpr rfl)
  · intro h
    cases h with
    | missed hfield =>
      simp only [Sentence.clause, hfield]
      rfl
    | noDate hfield hdate hzero =>
      have hzeroDate := And.intro (hzeros.mpr hzero) hdate
      simp only [Sentence.clause, hfield, Sentence.fieldClause, if_pos hzeroDate]
      rfl
    | @digits target _ _ hfield hother hdigits =>
      obtain rfl := (inAscii_iff hd _).mp hdigits
      simp only [Sentence.clause, hfield, Sentence.fieldClause, if_neg ((hvalue target).mpr hother)]
      rfl

/-- **All spellings of a number for a field come to the same.**  They are decided by the rule for
numbers.  If the field is found, its setter is called with the digits in ASCII, or with `null` if it
is a date and all digits are zeros; otherwise the line is left to do by hand. -/
theorem classify_assignsNumber {mark : Text} (href : (Reference.field entity label).Canonical)
    (hmark : mark ∈ Reference.openings) (hne : d ≠ []) (hd : ∀ c ∈ d, isDigit c = true)
    (hline : AssignsNumber (mark ++ (Reference.field entity label).content ++ "」") d line) :
    (recognize line).map (·.1) = some ("numeric_assignment" : Text) ∧
      ∀ (tree : FileTree) (helpers : Helpers) (l : Lexicon) (result : Clause × Lexicon),
        classify tree helpers line l = result ↔ NumberGiven tree l entity label d line result := by
  have hnumber : isNumber d = true := by simpa [isNumber, hne] using hd
  obtain ⟨rest, rfl, hvalue⟩ := hline.exists_rest hnumber
  have hrecognize := Sentence.recognize_numberField hnumber
    (Reference.leading?_written href hmark rest) hvalue
  refine ⟨by rw [hrecognize]; rfl, fun tree helpers l result => ?_⟩
  rw [classify, hrecognize]
  exact clause_number_eq_iff hd result

/-- A lexicon that knows one hat with the day of its sale. -/
def dayLexicon : Lexicon :=
  .ofCatalog ((Catalog.ofSources .empty).withEntity "帽子"
    ⟨some "Hat", [(Field.ofColumn "day" "日").withType "Date"]⟩) .empty

/-- The reference to that day. -/
def dayField : Reference := .field "帽子" "日"

/-- Zeros of both widths behind a sign and white space, a number with the verb, and a field that is
not found. -/
theorem classify_assignsNumber_day :
    dayField.Canonical ∧
      (recognize "「帽子.(日)」＝ 　０0。").map (·.1) = some ("numeric_assignment" : Text) ∧
      (classify ⟨.empty⟩ {} "「帽子.(日)」＝ 　０0。" dayLexicon).1 =
        .statement (.setField "hat.setDay" "null" (some "日")) ∧
      (classify ⟨.empty⟩ {} "項目「帽子.(日)」に０1を代入" dayLexicon).1 =
        .statement (.setField "hat.setDay" "01" (some "日")) ∧
      (classify ⟨.empty⟩ {} "項目「帽子.(日)」=1" hatLexicon).1 =
        .statement (.todo "項目「帽子.(日)」=1" (.fieldNotFound "帽子" "日")) := by
  have href : dayField.Canonical :=
    Reference.canonical_of_ofContent? (by decide : '」' ∉ ("帽子.(日)" : Text)) (by decide +kernel)
  have hmark : ("「" : Text) ∈ Reference.openings := by simp [Reference.openings]
  have hword : ("項目「" : Text) ∈ Reference.openings := by simp [Reference.openings]
  have hdigits (d : Text) (hd : d.all isDigit = true) : ∀ c ∈ d, isDigit c = true :=
    List.all_eq_true.mp hd
  have htarget : (dayLexicon.field ⟨.empty⟩ "帽子" "日").1 =
      .ok ⟨"hat", (Field.ofColumn "day" "日").withType "Date"⟩ := by decide +kernel
  have hmissed : (hatLexicon.field ⟨.empty⟩ "帽子" "日").1 = .error (.fieldNotFound "帽子" "日") := by
    decide +kernel
  have hspaced : AssignsNumber ("「" ++ dayField.content ++ "」") "０0"
      ("「" ++ dayField.content ++ "」" ++ '＝' :: ([' ', '　'] ++ ("０0" ++ "。"))) :=
    .sign (.inl rfl) (List.all_eq_true.mp (by decide)) (by simp [stops])
  have hverb : AssignsNumber ("項目「" ++ dayField.content ++ "」") "０1"
      ("項目「" ++ dayField.content ++ "」" ++ 'に' :: ("０1" ++ 'を' :: ("代入".toList ++ []))) :=
    .verb (by simp [verbs]) (by simp [stops])
  have hsign : AssignsNumber ("項目「" ++ dayField.content ++ "」") "1"
      ("項目「" ++ dayField.content ++ "」" ++ '=' :: ([] ++ ("1".toList ++ []))) :=
    .sign (.inr rfl) (by simp) (by simp [stops])
  obtain ⟨hrule, hzero⟩ :=
    classify_assignsNumber href hmark (by decide) (hdigits _ (by decide)) hspaced
  obtain ⟨-, hone⟩ := classify_assignsNumber href hword (by decide) (hdigits _ (by decide)) hverb
  obtain ⟨-, htodo⟩ := classify_assignsNumber href hword (by decide) (hdigits _ (by decide)) hsign
  rcases hday : dayLexicon.field ⟨.empty⟩ "帽子" "日" with ⟨answer, l₁⟩
  rcases hhat : hatLexicon.field ⟨.empty⟩ "帽子" "日" with ⟨failure, l₂⟩
  rw [hday] at htarget
  rw [hhat] at hmissed
  obtain rfl : answer = _ := htarget
  obtain rfl : failure = _ := hmissed
  refine ⟨href, hrule, ?_, ?_, ?_⟩
  · exact congrArg Prod.fst ((hzero _ {} dayLexicon _).mpr (.noDate hday rfl (by simp)))
  · exact congrArg Prod.fst ((hone _ {} dayLexicon _).mpr
      (.digits hday (fun _ => ⟨'1', by simp, by decide, by decide⟩)
        ((inAscii_iff (hdigits _ (by decide)) _).mpr rfl)))
  · exact congrArg Prod.fst ((htodo _ {} hatLexicon _).mpr (.missed hhat))

end Clause

end RuleSheet
