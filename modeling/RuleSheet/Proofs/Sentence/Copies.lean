import RuleSheet.Proofs.Reference
import RuleSheet.Proofs.Sentence.Recognition
import RuleSheet.Proofs.Text.Word

/-!
# Lines that assign one reference to another

Such a line names a target, a source, which characters of the source are meant, and the side on
which they stand.  Every rule in front of the one for copies declines it, because a reference occurs
behind the first one; and the target is looked up before the source, so a failure is that of the
target if both fail.

## Main definitions

* `RuleSheet.Sentence.Copy.write`, `Canonical` — a copy as a line, and the copies that can be
  written.
* `RuleSheet.Sentence.Copy.spelling` — the Java expression that a copy assigns.
* `RuleSheet.Sentence.Located`, `Copied` — the statement for a target, and what becomes of a copy.

## Main results

* `RuleSheet.Sentence.Copy.copy?_write` — a copy is read from its line.
* `RuleSheet.Sentence.declined_of_reference` — the rules in front decline such a line.
* `RuleSheet.Sentence.Copy.clause_eq_iff` — what becomes of a copy.
* `RuleSheet.Sentence.classify_write` — what becomes of the line of a copy.
-/

set_option autoImplicit false

namespace RuleSheet

open Text

namespace Sentence

/-! ### Writing -/

/-- The words for a slice, with white space around the numbers. -/
def sliceWords (gap : Text) (part : Option (Text × Text)) : Text :=
  part.elim [] fun (first, length) =>
    "の" ++ gap ++ first ++ gap ++ "文字目から" ++ gap ++ length ++ gap ++ "文字"

/-- The words for an alignment. -/
def alignmentWords : Option Alignment → Text
  | none => []
  | some .right => "右詰で"
  | some .left => "左詰で"

namespace Copy

/-- The line for a copy, given how the brackets of its references are opened and the white space
around the numbers of its slice. -/
def write (c : Copy) (targetMark sourceMark gap : Text) : Text :=
  targetMark ++ c.target.content ++ "」に" ++ sourceMark ++ c.source.content ++ "」" ++
    sliceWords gap c.slice ++ "を" ++ alignmentWords c.aligned ++ "代入します。"

/-- The copies that can be written: their references can be, and the numbers of a slice are runs of
digits. -/
structure Canonical (c : Copy) : Prop where
  /-- The target can be written. -/
  target : c.target.Canonical
  /-- The source can be written. -/
  source : c.source.Canonical
  /-- The numbers of the slice are runs of digits. -/
  slice : ∀ part ∈ c.slice, isNumber part.1 = true ∧ isNumber part.2 = true

/-- The Java expression that a copy assigns, given the one for its source: the slice is taken first,
and then it is aligned. -/
def spelling (c : Copy) (helpers : Helpers) (expression : Text) : Text :=
  let part : Text := match c.slice with
    | none => expression
    | some (first, length) =>
      helpers.string ++ ".mid(" ++ expression ++ ", " ++ foldDigits first ++ ", " ++
        foldDigits length ++ ")"
  match c.aligned with
  | none => part
  | some .right => helpers.string ++ ".alignRight(" ++ part ++ ")"
  | some .left => helpers.string ++ ".alignLeft(" ++ part ++ ")"

end Copy

/-- How a value is assigned to a target, once the target is found, with the lexicon afterwards.
Only the field of an entity is looked up. -/
inductive Located (tree : FileTree) (l : Lexicon) :
    Reference → (Text → Statement) → Lexicon → Prop
  /-- The field of an entity is given to its setter. -/
  | field {entity label : Text} {target : Target} {l' : Lexicon}
      (h : l.field tree entity label = (.ok target, l')) :
      Located tree l (.field entity label)
        (fun value => .setField target.setter value (some target.field.label)) l'
  /-- A variable is assigned by its name. -/
  | lettered {category : Char} {name : Text} :
      Located tree l (.variable category name) (.setVariable (category :: name)) l
  /-- A flag is assigned by its name. -/
  | starred {name : Text} : Located tree l (.flag name) (.setVariable name) l

/-- What becomes of a copy, with the lexicon afterwards. -/
inductive Copied (tree : FileTree) (helpers : Helpers) (line : Text) (c : Copy) (l : Lexicon) :
    Clause × Lexicon → Prop
  /-- Both references are found. -/
  | assigned {assign : Text → Statement} {meaning : Meaning} {l₁ l₂ : Lexicon}
      (htarget : Located tree l c.target assign l₁)
      (hsource : l₁.reference tree c.source = (.ok meaning, l₂)) :
      Copied tree helpers line c l (.statement (assign (c.spelling helpers meaning.expression)), l₂)
  /-- The target is not found, and the source is not looked up. -/
  | targetMissed {entity label : Text} {reason : Obstacle} {l₁ : Lexicon}
      (htarget : c.target = .field entity label)
      (hfield : l.field tree entity label = (.error reason, l₁)) :
      Copied tree helpers line c l (.statement (.todo line reason), l₁)
  /-- The source is not found. -/
  | sourceMissed {assign : Text → Statement} {reason : Obstacle} {l₁ l₂ : Lexicon}
      (htarget : Located tree l c.target assign l₁)
      (hsource : l₁.reference tree c.source = (.error reason, l₂)) :
      Copied tree helpers line c l (.statement (.todo line reason), l₂)

/-! ### Reading -/

/-- The steps of reading a slice. -/
lemma slice?_eq_some {t u v w x rest first length : Text} (hof : after? "の" t = some u)
    (hfirst : digits? (trimStart u) = some (first, v))
    (hfrom : after? "文字目から" (trimStart v) = some w)
    (hlength : digits? (trimStart w) = some (length, x))
    (hend : after? "文字" (trimStart x) = some rest) : slice? t = some ((first, length), rest) := by
  simp only [slice?, hof, hfirst, hfrom, hlength, hend, Option.bind_eq_bind, Option.bind_some,
    Option.pure_def]

section Gap

variable {gap : Text} (hgap : ∀ c ∈ gap, isBlank c = true)

include hgap

lemma trimStart_gap {d : Char} (hd : isBlank d = false) (t : Text) :
    trimStart (gap ++ d :: t) = d :: t :=
  dropWhile_run hgap hd t

/-- A number between white space. -/
lemma digits?_gap {n : Text} (hn : isNumber n = true) {d : Char} (hd : isDigit d = false)
    (t : Text) : digits? (trimStart (gap ++ (n ++ (gap ++ d :: t)))) = some (n, gap ++ d :: t) := by
  simp only [isNumber, Bool.and_eq_true, Bool.not_eq_true', List.isEmpty_eq_false_iff,
    List.all_eq_true] at hn
  obtain ⟨hne, hdigits⟩ := hn
  -- what follows the number is white space or the next word, and so no digit
  obtain ⟨e, u, hnext, he⟩ : ∃ e u, gap ++ d :: t = e :: u ∧ isDigit e = false := by
    cases gap with
    | nil => exact ⟨d, t, rfl, hd⟩
    | cons e gap =>
      refine ⟨e, gap ++ d :: t, rfl, ?_⟩
      by_contra hdigit
      have hblank := hgap e List.mem_cons_self
      rw [not_isBlank_of_isDigit (by simpa using hdigit)] at hblank
      cases hblank
  obtain ⟨f, n, rfl⟩ := List.exists_cons_of_ne_nil hne
  have hstart := trimStart_gap hgap (not_isBlank_of_isDigit (hdigits f List.mem_cons_self))
    (n ++ (gap ++ d :: t))
  rw [List.cons_append, hstart, ← List.cons_append, hnext, digits?, takeWhile_run hdigits he,
    dropWhile_run hdigits he, if_neg hne]

/-- A slice is read from its words. -/
lemma slice_sliceWords {part : Option (Text × Text)}
    (hpart : ∀ p ∈ part, isNumber p.1 = true ∧ isNumber p.2 = true) (t : Text) :
    slice (sliceWords gap part ++ 'を' :: t) = (part, 'を' :: t) := by
  cases part with
  | none => rfl
  | some p =>
    obtain ⟨first, length⟩ := p
    obtain ⟨hfirst, hlength⟩ := hpart _ rfl
    have hdigit : isDigit '文' = false := by decide
    have hblank : isBlank '文' = false := by decide
    have hshape : sliceWords gap (some (first, length)) ++ 'を' :: t =
        'の' :: (gap ++ (first ++ (gap ++ '文' :: ("字目から" ++ (gap ++ (length ++
          (gap ++ '文' :: ("字" ++ 'を' :: t)))))))) := by
      simp only [sliceWords, Option.elim_some, List.append_assoc]
      rfl
    have hof : after? "の" (sliceWords gap (some (first, length)) ++ 'を' :: t) = some _ :=
      congrArg (after? "の") hshape
    have hfrom : ∀ u, after? "文字目から" ('文' :: ("字目から" ++ u)) = some u :=
      fun u => (after?_eq_some_iff _ _ _).mpr rfl
    have hend : ∀ u, after? "文字" ('文' :: ("字" ++ u)) = some u :=
      fun u => (after?_eq_some_iff _ _ _).mpr rfl
    have hslice := slice?_eq_some hof (digits?_gap hgap hfirst hdigit _)
      (trimStart_gap hgap hblank _ ▸ hfrom _) (digits?_gap hgap hlength hdigit _)
      (trimStart_gap hgap hblank _ ▸ hend _)
    rw [slice, hslice]

end Gap

/-- An alignment is read from its words. -/
lemma alignment_alignmentWords (side : Option Alignment) :
    alignment (trimStart (alignmentWords side ++ "代入します。")) = (side, ("代入します。" : Text)) := by
  rcases side with _ | _ | _ <;> decide

/-- The brackets of a reference open with no white space. -/
lemma trimStart_opening {mark : Text} (hmark : mark ∈ Reference.openings) (t : Text) :
    trimStart (mark ++ t) = mark ++ t := by
  simp only [Reference.openings, List.mem_cons, List.not_mem_nil, or_false] at hmark
  rcases hmark with rfl | rfl <;> rfl

namespace Copy

variable {c : Copy} {targetMark sourceMark gap : Text}

/-- What stands behind the source of a copy. -/
def ending (c : Copy) (gap : Text) : Text :=
  sliceWords gap c.slice ++ 'を' :: (alignmentWords c.aligned ++ "代入します。")

/-- What stands behind the target of a copy. -/
def behind (c : Copy) (sourceMark gap : Text) : Text :=
  'に' :: (sourceMark ++ c.source.content ++ "」" ++ c.ending gap)

lemma write_eq (c : Copy) (targetMark sourceMark gap : Text) :
    c.write targetMark sourceMark gap =
      targetMark ++ c.target.content ++ "」" ++ c.behind sourceMark gap := by
  simp [write, behind, ending]

lemma trimStart_ending (c : Copy) (gap : Text) : trimStart (c.ending gap) = c.ending gap := by
  rcases c with ⟨target, source, _ | ⟨first, length⟩, side⟩ <;> rfl

/-- A copy is read from its line, up to the verb. -/
lemma copyText?_write (h : c.Canonical) (htarget : targetMark ∈ Reference.openings)
    (hsource : sourceMark ∈ Reference.openings) (hgap : ∀ d ∈ gap, isBlank d = true) :
    copyText? (c.write targetMark sourceMark gap) =
      some (CopyText.mk c.target.content c.source.content c.slice c.aligned,
        ("代入します。" : Text)) := by
  have hfirst := (Reference.bracketed?_eq_some_iff
    (c.write targetMark sourceMark gap) c.target.content (c.behind sourceMark gap)).mpr
    ⟨⟨targetMark, htarget, c.write_eq _ _ _⟩, h.target.closing_not_mem⟩
  have hsecond := (Reference.bracketed?_eq_some_iff
    (sourceMark ++ c.source.content ++ "」" ++ c.ending gap) c.source.content (c.ending gap)).mpr
    ⟨⟨sourceMark, hsource, rfl⟩, h.source.closing_not_mem⟩
  have hto : after? "に" (trimStart (c.behind sourceMark gap)) =
      some (sourceMark ++ c.source.content ++ "」" ++ c.ending gap) := rfl
  have hstart : trimStart (sourceMark ++ c.source.content ++ "」" ++ c.ending gap) =
      sourceMark ++ c.source.content ++ "」" ++ c.ending gap := by
    simpa using trimStart_opening hsource (c.source.content ++ ("」" ++ c.ending gap))
  have hslice : Sentence.slice (c.ending gap) =
      (c.slice, 'を' :: (alignmentWords c.aligned ++ "代入します。")) := slice_sliceWords hgap h.slice _
  have hobject : ∀ t, after? "を" (trimStart ('を' :: t)) = some t := fun t => rfl
  simp only [copyText?, hfirst, Option.bind_some, hto, hstart, hsecond, trimStart_ending, hslice,
    hobject, alignment_alignmentWords]
  rfl

/-- **A copy is read from its line.** -/
lemma copy?_write (h : c.Canonical) (htarget : targetMark ∈ Reference.openings)
    (hsource : sourceMark ∈ Reference.openings) (hgap : ∀ d ∈ gap, isBlank d = true) :
    copy? (c.write targetMark sourceMark gap) = some c := by
  have hverb : isAssignment "代入します。" = true := by decide
  simp only [copy?_eq, copyText?_write h htarget hsource hgap, Option.bind_some, hverb, if_true,
    CopyText.copy?, Reference.ofContent?_content h.target, Reference.ofContent?_content h.source]

end Copy

/-! ### The rules in front -/

/-- What stands in the brackets that are open is the first of the contents. -/
lemma contentsFrom_opened {inside : Text} (h : '」' ∉ inside) (read rest : Text) :
    Reference.contentsFrom (some read) (inside ++ '」' :: rest) =
      (read.reverse ++ inside) :: Reference.contentsFrom none rest := by
  induction inside generalizing read with
  | nil => simp [Reference.contentsFrom]
  | cons c inside ih =>
    rw [List.mem_cons, not_or] at h
    rw [List.cons_append, Reference.contentsFrom, if_neg (Ne.symm h.1), ih h.2]
    simp

/-- The first reference of a text occurs in it. -/
lemma occursIn_written {r : Reference} (h : r.Canonical) {mark : Text}
    (hmark : mark ∈ Reference.openings) {u : Text} (hu : '「' ∉ u) (rest : Text) :
    Reference.occursIn (u ++ (mark ++ r.content ++ "」" ++ rest)) = true := by
  -- the bracket is the last character of its mark
  obtain ⟨word, hword, hshape⟩ : ∃ word : Text, '「' ∉ word ∧ mark = word ++ ['「'] := by
    simp only [Reference.openings, List.mem_cons, List.not_mem_nil, or_false] at hmark
    rcases hmark with rfl | rfl
    · exact ⟨"項目", by decide, rfl⟩
    · exact ⟨[], by decide, rfl⟩
  have hcontents : Reference.contentsFrom none (u ++ (mark ++ r.content ++ "」" ++ rest)) =
      r.content :: Reference.contentsFrom none rest := by
    have hopened := contentsFrom_opened h.closing_not_mem [] rest
    rw [hshape, contentsFrom_append_left hu, List.append_assoc, List.append_assoc,
      List.append_assoc, contentsFrom_append_left hword]
    exact hopened
  rw [Reference.occursIn, hcontents, List.any_cons, Reference.ofContent?_content h]
  rfl

/-- A sentence with the particle of an assignment assigns no number if it has brackets. -/
lemma numberValue?_eq_none {rest body : Text} (htrim : trim rest = 'に' :: body)
    (hmem : '「' ∈ rest) : numberValue? rest = none := by
  have hsign : equalsValue? rest = none := by simp [equalsValue?, htrim]
  simp only [numberValue?, hsign]
  split
  next value hvalue =>
    refine if_neg fun hnumber => ?_
    exact not_mem_of_all_isPlain (all_isPlain_of_assignedTo? hnumber hvalue) (by decide) hmem
  next => rfl

/-- **The rules in front of the one for copies decline** a line with a reference behind its first
one, unless it assigns a number. -/
lemma declined_of_reference {line rest : Text} {r : Reference}
    (h : Reference.leading? line = some (r, rest)) (hoccurs : Reference.occursIn rest = true)
    (hnumber : numberValue? rest = none) : ∀ rule ∈ rules.take 6, rule.apply line = none := by
  obtain ⟨hopening, hcontinuation⟩ := conditions_of_leading? h
  intro rule hmem
  simp only [rules, List.take_succ_cons, List.take_zero, List.mem_cons, List.not_mem_nil,
    or_false] at hmem
  rcases hmem with rfl | rfl | rfl | rfl | rfl | rfl
  · exact hopening
  · exact hcontinuation
  · cases r <;> simp [blankField?, h, hoccurs]
  · cases r <;> simp [numberField?, h, hnumber]
  · cases r <;> simp [flagBit?, h, hoccurs]
  · cases r <;> simp [variableValue?, h, hoccurs]

/-- A copy that the rules in front decline is decided by the rule for copies. -/
lemma recognize_copy {line : Text} {c : Copy} (h : ∀ rule ∈ rules.take 6, rule.apply line = none)
    (hcopy : copy? line = some c) :
    recognize line = some (("reference_assignment" : Text), .copy c) := by
  have hfront : ((rules.take 6).findSome? fun rule =>
      (rule.apply line).map fun s => (rule.name, s)) = none := by
    refine List.findSome?_eq_none_iff.mpr fun rule hmem => ?_
    rw [h rule hmem, Option.map_none]
  rw [recognize, ← List.take_append_drop 6 rules, List.findSome?_append, hfront, Option.none_or]
  simp [rules, hcopy]

namespace Copy

variable {c : Copy} {targetMark sourceMark gap : Text}

/-- The rules in front decline the line of a copy. -/
lemma declined_write (h : c.Canonical) (htarget : targetMark ∈ Reference.openings)
    (hsource : sourceMark ∈ Reference.openings) (gap : Text) :
    ∀ rule ∈ rules.take 6, rule.apply (c.write targetMark sourceMark gap) = none := by
  have hleading := Reference.leading?_written h.target htarget (c.behind sourceMark gap)
  have hoccurs : Reference.occursIn (c.behind sourceMark gap) = true :=
    occursIn_written h.source hsource (by decide : '「' ∉ ['に']) (c.ending gap)
  have hbare : Bare isBlank (c.behind sourceMark gap) := by
    refine ⟨⟨'に', _, rfl, by decide⟩, ⟨'に' :: (sourceMark ++ c.source.content ++ "」" ++
      (sliceWords gap c.slice ++ 'を' :: (alignmentWords c.aligned ++ "代入します"))), '。', ?_,
      by decide⟩⟩
    simp [behind, ending]
  have hmem : '「' ∈ c.behind sourceMark gap := by
    have hopening : '「' ∈ sourceMark := by
      simp only [Reference.openings, List.mem_cons, List.not_mem_nil, or_false] at hsource
      rcases hsource with rfl | rfl <;> decide
    simp [behind, hopening]
  rw [write_eq]
  exact declined_of_reference hleading hoccurs (numberValue?_eq_none hbare.trimBy_eq hmem)

/-! ### What becomes of a copy -/

lemma value_eq_spelling (c : Copy) (helpers : Helpers) (expression : Text) :
    c.value helpers expression = c.spelling helpers expression := by
  rcases c with ⟨target, source, _ | ⟨first, length⟩, _ | _ | _⟩ <;>
    simp [value, spelling, alignedTo, sliced, helperCall]

section Clause

variable {tree : FileTree} {helpers : Helpers} {line : Text} {l : Lexicon}

/-- Once the target of a copy is found, the source is looked up. -/
lemma clause_of_located {assign : Text → Statement} {l₁ : Lexicon}
    (h : Located tree l c.target assign l₁) :
    c.clause tree helpers line l =
      c.assigned tree helpers line (fun value => .statement (assign value)) l₁ := by
  generalize hr : c.target = r at h
  cases h with
  | field hfield =>
    simp only [Copy.clause, hr, hfield]
    rfl
  | lettered => simp only [Copy.clause, hr]
  | starred => simp only [Copy.clause, hr]

/-- A target is found, or it is a field that leads nowhere. -/
lemma located_or_missed (tree : FileTree) (l : Lexicon) (r : Reference) :
    (∃ assign l₁, Located tree l r assign l₁) ∨
      ∃ entity label reason l₁, r = .field entity label ∧
        l.field tree entity label = (.error reason, l₁) := by
  rcases r with ⟨entity, label⟩ | ⟨category, name⟩ | ⟨name⟩
  · rcases hfield : l.field tree entity label with ⟨reason | target, l₁⟩
    · exact .inr ⟨entity, label, reason, l₁, rfl, hfield⟩
    · exact .inl ⟨_, l₁, .field hfield⟩
  · exact .inl ⟨_, l, .lettered⟩
  · exact .inl ⟨_, l, .starred⟩

/-- **What becomes of a copy.** -/
lemma clause_eq_iff (result : Clause × Lexicon) :
    c.clause tree helpers line l = result ↔ Copied tree helpers line c l result := by
  constructor
  · rintro rfl
    rcases located_or_missed tree l c.target with
      ⟨assign, l₁, htarget⟩ | ⟨entity, label, reason, l₁, htarget, hfield⟩
    · rw [clause_of_located htarget, Copy.assigned]
      split
      next reason l₂ hsource => exact .sourceMissed htarget hsource
      next meaning l₂ hsource =>
        rw [value_eq_spelling]
        exact .assigned htarget hsource
    · simp only [Copy.clause, htarget, hfield]
      exact .targetMissed htarget hfield
  · intro h
    cases h with
    | assigned htarget hsource =>
      simp only [clause_of_located htarget, Copy.assigned, hsource, value_eq_spelling]
    | targetMissed htarget hfield =>
      simp only [Copy.clause, htarget, hfield]
      rfl
    | sourceMissed htarget hsource =>
      simp only [clause_of_located htarget, Copy.assigned, hsource]
      rfl

end Clause

end Copy

/-- **Lines that assign one reference to another** are decided by the rule for them, and by no rule
in front of it.  If the target and then the source are found, the line comes to the assignment of
the source, of which a slice is taken first and then aligned; otherwise it is left to do by hand,
with the first failure. -/
theorem classify_write {c : Copy} (h : c.Canonical) {targetMark sourceMark gap : Text}
    (htarget : targetMark ∈ Reference.openings) (hsource : sourceMark ∈ Reference.openings)
    (hgap : ∀ d ∈ gap, isBlank d = true) :
    recognize (c.write targetMark sourceMark gap) =
        some (("reference_assignment" : Text), .copy c) ∧
      (∀ rule ∈ rules.take 6, rule.apply (c.write targetMark sourceMark gap) = none) ∧
      ∀ (tree : FileTree) (helpers : Helpers) (l : Lexicon) (result : Clause × Lexicon),
        classify tree helpers (c.write targetMark sourceMark gap) l = result ↔
          Copied tree helpers (c.write targetMark sourceMark gap) c l result := by
  have hdeclined := Copy.declined_write h htarget hsource gap
  have hrecognize := recognize_copy hdeclined (Copy.copy?_write h htarget hsource hgap)
  refine ⟨hrecognize, hdeclined, fun tree helpers l result => ?_⟩
  rw [classify, hrecognize]
  exact Copy.clause_eq_iff result

/-- A slice of a field, at the right of a variable. -/
def slicedHue : Copy := ⟨.variable 'D' "区分", .field "帽子" "色", some ("２", "10"), some .right⟩

/-- The slice is taken and aligned, with its digits in ASCII. -/
theorem classify_write_slicedHue :
    slicedHue.Canonical ∧
      slicedHue.write "「" "項目「" [' '] =
        "「D\\区分」に項目「帽子.(色)」の ２ 文字目から 10 文字を右詰で代入します。" ∧
      recognize (slicedHue.write "「" "項目「" [' ']) =
        some (("reference_assignment" : Text), .copy slicedHue) ∧
      (classify ⟨.empty⟩ {} (slicedHue.write "「" "項目「" [' ']) hatLexicon).1 =
        .statement (.setVariable "D区分" "StrUtil.alignRight(StrUtil.mid(hat.getHue(), 2, 10))") := by
  have htarget : slicedHue.target.Canonical :=
    Reference.canonical_of_ofContent? (by decide : '」' ∉ ("D\\区分" : Text)) (by decide +kernel)
  have hsource : slicedHue.source.Canonical :=
    Reference.canonical_of_ofContent? (by decide : '」' ∉ ("帽子.(色)" : Text)) (by decide +kernel)
  have hslice : ∀ part ∈ slicedHue.slice, isNumber part.1 = true ∧ isNumber part.2 = true := by
    intro part hpart
    obtain rfl := Option.some.inj hpart
    decide
  have hgap : ∀ d ∈ [' '], isBlank d = true := by simpa using (by decide : isBlank ' ' = true)
  obtain ⟨hrecognize, -, hclassify⟩ := classify_write ⟨htarget, hsource, hslice⟩
    (by simp [Reference.openings] : ("「" : Text) ∈ Reference.openings)
    (by simp [Reference.openings] : ("項目「" : Text) ∈ Reference.openings) hgap
  have hmeaning : (hatLexicon.reference ⟨.empty⟩ slicedHue.source).1 =
      .ok ⟨"hat.getHue()", some .unknown⟩ := by decide +kernel
  have hspelling : slicedHue.spelling {} "hat.getHue()" =
      "StrUtil.alignRight(StrUtil.mid(hat.getHue(), 2, 10))" := by decide +kernel
  refine ⟨⟨htarget, hsource, hslice⟩, by decide +kernel, hrecognize, ?_⟩
  rcases hresult : hatLexicon.reference ⟨.empty⟩ slicedHue.source with ⟨answer, l₂⟩
  rw [hresult] at hmeaning
  obtain rfl : answer = _ := hmeaning
  rw [(hclassify ⟨.empty⟩ {} hatLexicon _).mpr (.assigned .lettered hresult)]
  exact congrArg (fun value => Clause.statement (.setVariable "D区分" value)) hspelling

end Sentence

end RuleSheet
