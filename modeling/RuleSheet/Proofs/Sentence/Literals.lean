import RuleSheet.Proofs.Java.Literal
import RuleSheet.Proofs.Sentence.Surroundings

/-!
# Quoted literals in sentences

A line can give a quoted text to a field, with the verb or with the sign of equality.  The rule for
such lines is the last one, and all rules before it but one leave them alone, whatever stands in the
quotes: the rule for empty values does not look at quotes.  So a text comes through unchanged
exactly if it does not mention the word for an empty value, or refers to something besides.

## Main results

* `RuleSheet.Sentence.assignedTo?_literal`, `equalsValue?_literal` — the value in each of the two
  ways.
* `RuleSheet.sentence?_literal` — the sentence of a line that assigns a quoted text.
* `RuleSheet.classify_literal` — what is written for it.
-/

set_option autoImplicit false

namespace RuleSheet

open Text

namespace Sentence

/-! ### The value of a line -/

/-- The value that the verb assigns. -/
lemma assignedTo?_eq {value verb : Text} (hvalue : Bare isBlank value) (hline : '\n' ∉ value)
    (hbare : Bare isBlank verb) (hlast : 'を' ∉ verb)
    (hverb : isAssignment (alignment verb).2 = true) :
    assignedTo? ('に' :: (value ++ 'を' :: verb)) = some value := by
  have hwhole : Bare isBlank ('に' :: (value ++ 'を' :: verb)) := by
    have hni : Bare isBlank ['に'] := bare_singleton (by decide)
    simpa using hni.append hbare (value ++ ['を'])
  have htrim : trim ('に' :: (value ++ 'を' :: verb)) = 'に' :: (value ++ 'を' :: verb) :=
    hwhole.trimBy_eq
  have hbody : after? "に" ('に' :: (value ++ 'を' :: verb)) = some (value ++ 'を' :: verb) := rfl
  have hcut : cutLast? "を" (value ++ 'を' :: verb) = some (value, verb) :=
    cutLast?_of_not_mem hlast value
  have hne : value ≠ [] := by
    obtain ⟨c, rest, rfl, -⟩ := hvalue.head
    simp
  have hoperand : operand? value = some value := by
    have htrim : trim value = value := hvalue.trimBy_eq
    rw [operand?, htrim, if_neg hne, if_neg hline]
  simp only [assignedTo?, htrim, hbody, Option.bind_eq_bind, Option.bind_some, hcut, hverb, if_true,
    hoperand]

/-- A stop behind a value is dropped. -/
lemma dropStop_append_stop {value : Text} (hvalue : Bare isBlank value) {c : Char}
    (hc : isStop c = true) : dropStop (value ++ [c]) = value := by
  obtain ⟨front, d, rfl, hd⟩ := hvalue.last
  have hend : trimEnd (front ++ [d]) = front ++ [d] :=
    List.rdropWhile_concat_neg isBlank front d (by simp [hd])
  have hkept : isStop c = true ∧ front ++ [d] ≠ [] := ⟨hc, by simp⟩
  simp only [dropStop, List.getLast?_concat, List.dropLast_concat, hend, if_pos hkept]

/-- The value behind a sign of equality, with white space in front of it and a stop behind it or
none. -/
lemma equalsValue?_eq {sign : Char} {gap value stop : Text} (hsign : sign = '＝' ∨ sign = '=')
    (hgap : ∀ c ∈ gap, isBlank c = true) (hne : value ≠ []) (hline : '\n' ∉ value)
    (hbare : Bare isBlank (value ++ stop)) (hstop : dropStop (value ++ stop) = value) :
    equalsValue? (sign :: (gap ++ (value ++ stop))) = some value := by
  have hwhole : Bare isBlank (sign :: (gap ++ (value ++ stop))) := by
    have hmark : Bare isBlank [sign] := by
      rcases hsign with rfl | rfl <;> exact bare_singleton (by decide)
    simpa using hmark.append hbare gap
  have htrim : trim (sign :: (gap ++ (value ++ stop))) = sign :: (gap ++ (value ++ stop)) :=
    hwhole.trimBy_eq
  have hstart : trimStart (gap ++ (value ++ stop)) = value ++ stop := by
    simpa [trimStart, trimStartBy] using dropWhile_append_bare hgap hbare []
  simp [equalsValue?, htrim, hstart, hstop, hsign, hne, hline]

/-- A text in quotes neither starts nor ends with a blank. -/
lemma bare_literal (s : Text) : Bare isBlank ('"' :: (s ++ ['"'])) :=
  ⟨⟨'"', s ++ ['"'], rfl, by decide⟩, ⟨'"' :: s, '"', rfl, by decide⟩⟩

/-- The text in quotes. -/
lemma quoted?_literal (s : Text) : quoted? ('"' :: (s ++ ['"'])) = some s := by
  have hclosing : before? ['"'] (s ++ ['"']) = some s := (before?_eq_some_iff _ _ _).mpr rfl
  have htrim : trim ('"' :: (s ++ ['"'])) = '"' :: (s ++ ['"']) := (bare_literal s).trimBy_eq
  simp [quoted?, quotes, htrim, after?, hclosing]

/-- A text in quotes is no number. -/
lemma isNumber_literal (s : Text) : isNumber ('"' :: s) = false := by
  have hquote : isDigit '"' = false := by decide
  simp [isNumber, hquote]

end Sentence

/-! ### The sentence -/

variable {ref entity label s line : Text}

/-- A line that gives a quoted text to what it refers to. -/
inductive AssignsLiteral (ref s : Text) : Text → Prop
  /-- With the verb. -/
  | verb : AssignsLiteral ref s (ref ++ "に\"" ++ s ++ "\"を代入します。")
  /-- With the sign of equality. -/
  | sign : AssignsLiteral ref s (ref ++ "＝\"" ++ s ++ "\"。")

/-- What stands behind the reference of a line that assigns a quoted text: the text between
characters that are not telling, and its value in one of the two ways. -/
lemma AssignsLiteral.exists_rest (hline : AssignsLiteral ref s line) (hs : '\n' ∉ s) :
    ∃ u v, line = ref ++ (u ++ s ++ v) ∧ u.all (!isTelling ·) = true ∧ v.all (!isTelling ·) = true ∧
      Sentence.numberValue? (u ++ s ++ v) = none ∧
      Sentence.assignedValue? (u ++ s ++ v) = some ('"' :: (s ++ ['"'])) ∧
      ∀ t, after? "に" (trimStart (u ++ s ++ v)) = some t →
        Reference.bracketed? (trimStart t) = none := by
  have hnewline : '\n' ∉ '"' :: (s ++ ['"']) := by simpa using hs
  cases hline with
  | verb =>
    have hrest : "に\"".toList ++ s ++ "\"を代入します。".toList =
        'に' :: ('"' :: (s ++ ['"']) ++ 'を' :: "代入します。".toList) := by simp
    have hverb : Bare isBlank "代入します。" :=
      ⟨⟨'代', "入します。", rfl, by decide⟩, ⟨"代入します", '。', rfl, by decide⟩⟩
    have hassigned := Sentence.assignedTo?_eq (Sentence.bare_literal s) hnewline hverb (by decide)
      (by decide)
    refine ⟨"に\"", "\"を代入します。", by simp, by decide, by decide, ?_, ?_, ?_⟩
    · rw [hrest]
      simp only [Sentence.numberValue?, Sentence.equalsValue?_of_assignedTo? hassigned, hassigned,
        Sentence.isNumber_literal]
      rfl
    · rw [hrest, Sentence.assignedValue?, hassigned]
      rfl
    · intro t ht
      obtain rfl := Option.some.inj ht
      rfl
  | sign =>
    have hrest :
        "＝\"".toList ++ s ++ "\"。".toList = '＝' :: ('"' :: (s ++ ['"']) ++ ['。']) := by simp
    have hliteral := Sentence.bare_literal s
    have hstopped : Bare isBlank ('"' :: (s ++ ['"']) ++ ['。']) := by
      simpa using hliteral.append (bare_singleton (by decide : isBlank '。' = false)) []
    have hequals : Sentence.equalsValue? ('＝' :: ('"' :: (s ++ ['"']) ++ ['。'])) =
        some ('"' :: (s ++ ['"'])) :=
      Sentence.equalsValue?_eq (.inl rfl) (by simp : ∀ c ∈ [], isBlank c = true) (by simp) hnewline
        hstopped (Sentence.dropStop_append_stop hliteral (by decide))
    refine ⟨"＝\"", "\"。", by simp, by decide, by decide, ?_, ?_, ?_⟩
    · rw [hrest]
      simp only [Sentence.numberValue?, hequals, Sentence.equalsNumber?, Sentence.isNumber_literal,
        Sentence.quoted?_literal]
      rfl
    · have hverb : Sentence.assignedTo? ('＝' :: ('"' :: (s ++ ['"']) ++ ['。'])) = none := by
        cases hassigned : Sentence.assignedTo? ('＝' :: ('"' :: (s ++ ['"']) ++ ['。'])) with
        | none => rfl
        | some value =>
          rw [Sentence.equalsValue?_of_assignedTo? hassigned] at hequals
          cases hequals
      rw [hrest, Sentence.assignedValue?, hverb]
      exact hequals
    · intro t ht
      cases ht

/-- **The sentence of a line that assigns a quoted text to a field.**  The rule for empty values
comes first, and looks into the quotes. -/
lemma sentence?_literal (href : Reference.leading? ref = some (.field entity label, []))
    (hs : '\n' ∉ s) (hline : AssignsLiteral ref s line) :
    sentence? line = some (.field entity label
      (if mentionsBlank s && !Reference.occursIn s then .blank else .text s)) := by
  obtain ⟨u, v, rfl, hu, hv, hnumber, hvalue, hsource⟩ := hline.exists_rest hs
  have hquiet : ∀ w : Text, w.all (!isTelling ·) = true → ∀ c ∈ w, isTelling c = false :=
    fun w hw c hc => by simpa using List.all_eq_true.mp hw c hc
  have hleading := Reference.leading?_append href (u ++ s ++ v)
  rw [List.nil_append] at hleading
  -- what is assigned starts with a quote, and not with the bracket of a reference
  have hcopy : Sentence.copy? (ref ++ (u ++ s ++ v)) = none :=
    Sentence.copy?_eq_none_of_leading? hleading hsource
  rw [sentence?_field hleading, mentionsBlank_surround (hquiet u hu) (hquiet v hv),
    Reference.occursIn_surround (hquiet u hu) (hquiet v hv), hnumber, hcopy, hvalue,
    Option.bind_some, Sentence.quoted?_literal]
  split <;> rfl

/-- **A quoted text for a field** comes through unchanged exactly if it does not mention the word
for an empty value, or refers to something besides.  Otherwise the field is set to the empty
text. -/
theorem classify_literal {tree : FileTree} {helpers : Helpers} {l : Lexicon} {target : Target}
    (href : Reference.leading? ref = some (.field entity label, []))
    (htarget : (l.field tree entity label).1 = .ok target) (hs : '\n' ∉ s)
    (hline : AssignsLiteral ref s line) :
    ((classify tree helpers line l).1 = target.assign (Java.literal s) ↔
      ¬ (mentionsBlank s = true ∧ Reference.occursIn s = false)) ∧
    (mentionsBlank s = true ∧ Reference.occursIn s = false →
      (classify tree helpers line l).1 = target.assign "\"\"") := by
  obtain ⟨after, hpair⟩ : ∃ after, l.field tree entity label = (.ok target, after) :=
    ⟨_, Prod.ext htarget rfl⟩
  have hclause : (classify tree helpers line l).1 =
      Sentence.fieldClause line target
        (if mentionsBlank s && !Reference.occursIn s then .blank else .text s) := by
    rw [classify_eq, sentence?_literal href hs hline, Option.elim_some, Sentence.clause, hpair]
  by_cases hblank : mentionsBlank s = true ∧ Reference.occursIn s = false
  · have hempty : (classify tree helpers line l).1 = target.assign "\"\"" := by
      rw [hclause, hblank.1, hblank.2]
      rfl
    refine ⟨iff_of_false (fun hsame => ?_) (not_not_intro hblank), fun _ => hempty⟩
    have hvalue : Java.literal s = Java.literal [] := by
      rw [hempty] at hsame
      injection hsame with hstatement
      injection hstatement with _ hvalue
      exact hvalue.symm
    obtain rfl := Java.literal_injective hvalue
    cases hblank.1
  · have hnot : (mentionsBlank s && !Reference.occursIn s) = false := by simpa using hblank
    rw [hclause, hnot]
    exact ⟨iff_of_true rfl hblank, fun h => absurd h hblank⟩

/-- A quoted text that mentions the word for an empty value, but refers to something besides. -/
theorem classify_literal_reference :
    AssignsLiteral "項目「帽子.(色)」" "「D\\区分」のブランク"
        ("項目「帽子.(色)」" ++ "＝\"" ++ "「D\\区分」のブランク" ++ "\"。") ∧
      (classify ⟨.empty⟩ {} ("項目「帽子.(色)」" ++ "＝\"" ++ "「D\\区分」のブランク" ++ "\"。")
        hatLexicon).1 =
        .statement (.setField "hat.setHue" "\"「D\\\\区分」のブランク\"" (some "色")) := by
  have href : Reference.leading? "項目「帽子.(色)」" = some (.field "帽子" "色", []) := by decide +kernel
  have hliteral : Java.literal "「D\\区分」のブランク" = "\"「D\\\\区分」のブランク\"" := by decide +kernel
  have hassign : (classify ⟨.empty⟩ {}
      ("項目「帽子.(色)」" ++ "＝\"" ++ "「D\\区分」のブランク" ++ "\"。") hatLexicon).1 =
      Target.assign ⟨"hat", .ofColumn "hue" "色"⟩ (Java.literal "「D\\区分」のブランク") :=
    (classify_literal href (by decide +kernel) (by decide +kernel) .sign).1.mpr
      (by decide +kernel)
  refine ⟨.sign, ?_⟩
  rw [hassign, hliteral]
  rfl

/-- The word for an empty value in quotes is taken for the empty value. -/
theorem classify_literal_blankWord :
    AssignsLiteral "項目「帽子.(色)」" "ブランク"
        ("項目「帽子.(色)」" ++ "に\"" ++ "ブランク" ++ "\"を代入します。") ∧
      Java.literal "ブランク" = "\"ブランク\"" ∧
      (classify ⟨.empty⟩ {} ("項目「帽子.(色)」" ++ "に\"" ++ "ブランク" ++ "\"を代入します。")
        hatLexicon).1 = .statement (.setField "hat.setHue" "\"\"" (some "色")) :=
  ⟨.verb, by decide +kernel, by decide +kernel⟩

end RuleSheet
