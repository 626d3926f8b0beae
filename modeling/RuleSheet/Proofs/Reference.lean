import RuleSheet.Proofs.Text.Marks
import RuleSheet.Proofs.Text.Trim
import RuleSheet.Reference

/-!
# How references are written and read

The three forms of references overlap: the identifier of an entity may hold dots, backslashes and
brackets of its own.  They are told apart by how the text between the corner brackets starts, and
the label of a field is what stands behind the last round bracket that is opened.  This module says
which references can be written, and that reading gives exactly these.

## Main definitions

* `RuleSheet.Reference.IsName`, `Unmarked`, `Canonical` — the references that can be written.
* `RuleSheet.Reference.ReadAs` — the rules for what is read from the text between the brackets.
* `RuleSheet.Reference.openings` — the two ways to open the brackets.

## Main results

* `RuleSheet.Reference.ofContent?_eq_some_iff` — reading follows the rules.
* `RuleSheet.Reference.bracketed?_eq_some_iff` — the text between the brackets.
* `RuleSheet.Reference.ofContent?_content`, `canonical_of_ofContent?` — writing and reading the text
  between the brackets.
* `RuleSheet.Reference.read_written` — writing and reading references.
-/

set_option autoImplicit false

namespace RuleSheet.Reference

open Text

/-! ### References that can be written -/

/-- A name: it is not empty, has no blanks at its ends, and does not close the brackets. -/
structure IsName (t : Text) : Prop where
  /-- It is not empty. -/
  ne_nil : t ≠ []
  /-- It has no blanks at its ends. -/
  trim_eq : trim t = t
  /-- It does not close the brackets. -/
  closing_not_mem : '」' ∉ t

/-- A text that starts neither like a flag nor like a variable. -/
structure Unmarked (t : Text) : Prop where
  /-- It does not start like a flag. -/
  not_flag : ¬ ['*'] <+: t
  /-- It does not start like a variable. -/
  not_variable : ∀ c, isAsciiLetter c = true → ¬ [c, '\\'] <+: t

/-- The references that can be written. -/
inductive Canonical : Reference → Prop
  /-- The field of an entity. -/
  | field {entity label : Text} (hentity : IsName entity) (hlabel : IsName label)
      (hline : '\n' ∉ entity) (hunmarked : Unmarked entity) (hopening : '(' ∉ label)
      (hclosing : ')' ∉ label) : Canonical (.field entity label)
  /-- A variable. -/
  | lettered {category : Char} {name : Text} (hcategory : isAsciiLetter category = true)
      (hname : IsName name) : Canonical (.variable category name)
  /-- A flag. -/
  | starred {name : Text} (hname : IsName name) : Canonical (.flag name)

section IsName

variable {t : Text}

lemma IsName.bare (h : IsName t) : Bare isBlank t := bare_of_trimBy h.trim_eq h.ne_nil

/-- What trimming leaves of a text without the closing bracket is a name. -/
lemma isName_trim (hne : trim t ≠ []) (hclosing : '」' ∉ t) : IsName (trim t) := by
  refine ⟨hne, ?_, fun hmem => hclosing (trim_subset t hmem)⟩
  rcases forall_or_surround isBlank t with hall | ⟨s, body, u, rfl, hs, hbody, hu⟩
  · exact absurd (trimBy_of_forall hall) hne
  · have htrim : trim (s ++ body ++ u) = body := trimBy_surround hs hbody hu
    rw [htrim]
    exact hbody.trimBy_eq

/-- The start of a text without a mark has none. -/
lemma Unmarked.mono {u : Text} (h : Unmarked u) (ht : t <+: u) : Unmarked t :=
  ⟨fun hflag => h.not_flag (hflag.trans ht),
    fun c hc hvariable => h.not_variable c hc (hvariable.trans ht)⟩

/-- A dot behind an identifier makes no mark of it. -/
lemma Unmarked.append_dot (h : Unmarked t) (hne : t ≠ []) (u : Text) :
    Unmarked (t ++ '.' :: u) := by
  obtain ⟨c, t, rfl⟩ := List.exists_cons_of_ne_nil hne
  constructor
  · rintro ⟨rest, hrest⟩
    obtain ⟨rfl, -⟩ := List.cons.inj hrest
    exact h.not_flag ⟨t, rfl⟩
  · rintro d hd ⟨rest, hrest⟩
    obtain ⟨rfl, hnext⟩ := List.cons.inj hrest
    cases t with
    | nil => cases hnext
    | cons e t =>
      obtain ⟨rfl, -⟩ := List.cons.inj hnext
      exact h.not_variable d hd ⟨t, rfl⟩

end IsName

/-! ### Between the brackets -/

/-- The rules for what is read from the text between the brackets, without the blanks at its
ends. -/
inductive ReadAs (t : Text) : Reference → Prop
  /-- An asterisk marks a flag. -/
  | starred {name : Text} (ht : t = '*' :: name) (hname : trim name ≠ []) :
      ReadAs t (.flag (trim name))
  /-- A letter and a backslash mark a variable. -/
  | lettered {category : Char} {name : Text} (hcategory : isAsciiLetter category = true)
      (ht : t = category :: '\\' :: name) (hname : trim name ≠ []) :
      ReadAs t (.variable category (trim name))
  /-- Otherwise the last round brackets hold the label of a field. -/
  | field {entity label : Text} (hunmarked : Unmarked t) (ht : t = entity ++ ".(" ++ label ++ ")")
      (hline : '\n' ∉ entity) (hopening : '(' ∉ label) (hclosing : ')' ∉ label)
      (hentity : trim entity ≠ []) (hlabel : trim label ≠ []) :
      ReadAs t (.field (trim entity) (trim label))

/-- The field that is read from a text. -/
lemma fieldOfContent?_eq_some_iff (t : Text) (r : Reference) :
    fieldOfContent? t = some r ↔ ∃ entity label, t = entity ++ ".(" ++ label ++ ")" ∧
      '\n' ∉ entity ∧ '(' ∉ label ∧ ')' ∉ label ∧ trim entity ≠ [] ∧ trim label ≠ [] ∧
      r = .field (trim entity) (trim label) := by
  constructor
  · intro h
    obtain ⟨body, hbody, h⟩ := Option.bind_eq_some_iff.mp h
    obtain ⟨⟨owner, label⟩, hcut, h⟩ := Option.bind_eq_some_iff.mp h
    obtain ⟨entity, howner, h⟩ := Option.bind_eq_some_iff.mp h
    rw [before?_eq_some_iff] at hbody howner
    obtain ⟨hcut, hopening⟩ := (cutLast?_eq_some_iff _ _ _ _).mp hcut
    split at h
    next => cases h
    next hparts =>
      split at h
      next => cases h
      next htrim =>
        simp only [not_or] at hparts htrim
        obtain rfl := Option.some.inj h
        refine ⟨entity, label, ?_, hparts.2.2.2, hopening, hparts.2.1, htrim.1, htrim.2, rfl⟩
        simp [hbody, hcut, howner]
  · rintro ⟨entity, label, rfl, hline, hopening, hclosing, hentity, hlabel, rfl⟩
    have hbody : before? [')'] (entity ++ ".(" ++ label ++ ")") = some (entity ++ ".(" ++ label) :=
      (before?_eq_some_iff _ _ _).mpr rfl
    have hcut : cutLast? ['('] (entity ++ ".(" ++ label) = some (entity ++ ".", label) :=
      (cutLast?_eq_some_iff _ _ _ _).mpr ⟨by simp, hopening⟩
    have howner : before? ['.'] (entity ++ ".") = some entity := (before?_eq_some_iff _ _ _).mpr rfl
    have hentity' : entity ≠ [] := by
      rintro rfl
      exact hentity rfl
    have hlabel' : label ≠ [] := by
      rintro rfl
      exact hlabel rfl
    simp only [fieldOfContent?, hbody, hcut, howner, Option.bind_eq_bind, Option.bind_some]
    rw [if_neg (by simp [hlabel', hclosing, hentity', hline]), if_neg (by simp [hentity, hlabel])]

/-- How a text is read, by the way it starts. -/
lemma ofContent?_cases (t : Text) :
    (∃ name, trim t = '*' :: name ∧
      ofContent? t = if trim name = [] then none else some (.flag (trim name))) ∨
    (∃ category name, isAsciiLetter category = true ∧ trim t = category :: '\\' :: name ∧
      ofContent? t = if trim name = [] then none else some (.variable category (trim name))) ∨
    Unmarked (trim t) ∧ ofContent? t = fieldOfContent? (trim t) := by
  unfold ofContent?
  split
  next name ht => exact .inl ⟨name, ht, rfl⟩
  next category name hflag ht =>
    by_cases hcategory : isAsciiLetter category = true
    · exact .inr (.inl ⟨category, name, hcategory, ht, if_pos hcategory⟩)
    · refine .inr (.inr ⟨⟨?_, ?_⟩, ?_⟩)
      · rintro ⟨rest, hrest⟩
        exact hflag (List.cons.inj (hrest.trans ht)).1.symm
      · rintro c hc ⟨rest, hrest⟩
        obtain ⟨rfl, -⟩ := List.cons.inj (hrest.trans ht)
        exact hcategory hc
      · rw [if_neg hcategory, ht]
  next hflag hvariable =>
    refine .inr (.inr ⟨⟨?_, ?_⟩, rfl⟩)
    · rintro ⟨rest, hrest⟩
      exact hflag rest hrest.symm
    · rintro c - ⟨rest, hrest⟩
      exact hvariable c rest hrest.symm

/-- **Reading follows the rules.** -/
lemma ofContent?_eq_some_iff (t : Text) (r : Reference) :
    ofContent? t = some r ↔ ReadAs (trim t) r := by
  constructor
  · intro h
    rcases ofContent?_cases t with ⟨name, ht, hread⟩ | ⟨category, name, hcategory, ht, hread⟩ |
      ⟨hunmarked, hread⟩
    · rw [hread, Option.ite_none_left_eq_some] at h
      obtain ⟨hname, heq⟩ := h
      obtain rfl := Option.some.inj heq
      exact .starred ht hname
    · rw [hread, Option.ite_none_left_eq_some] at h
      obtain ⟨hname, heq⟩ := h
      obtain rfl := Option.some.inj heq
      exact .lettered hcategory ht hname
    · rw [hread, fieldOfContent?_eq_some_iff] at h
      obtain ⟨entity, label, ht, hline, hopening, hclosing, hentity, hlabel, rfl⟩ := h
      exact .field hunmarked ht hline hopening hclosing hentity hlabel
  · intro h
    cases h with
    | starred ht hname => simp only [ofContent?, ht, if_neg hname]
    | lettered hcategory ht hname =>
      rcases ofContent?_cases t with ⟨name, ht', -⟩ | ⟨category, name, -, ht', hread⟩ |
        ⟨hunmarked, -⟩
      · -- the asterisk is no letter
        rw [ht] at ht'
        obtain ⟨rfl, -⟩ := List.cons.inj ht'
        cases hcategory
      · rw [ht] at ht'
        obtain ⟨rfl, hrest⟩ := List.cons.inj ht'
        obtain rfl := (List.cons.inj hrest).2
        rw [hread, if_neg hname]
      · exact absurd ⟨_, ht.symm⟩ (hunmarked.not_variable _ hcategory)
    | field hunmarked ht hline hopening hclosing hentity hlabel =>
      rcases ofContent?_cases t with
        ⟨name, ht', -⟩ | ⟨category, name, hcategory, ht', -⟩ | ⟨-, hread⟩
      · exact absurd ⟨_, ht'.symm⟩ hunmarked.not_flag
      · exact absurd ⟨_, ht'.symm⟩ (hunmarked.not_variable _ hcategory)
      · rw [hread, fieldOfContent?_eq_some_iff]
        exact ⟨_, _, ht, hline, hopening, hclosing, hentity, hlabel, rfl⟩

/-- A letter is no blank. -/
lemma not_isBlank_of_isAsciiLetter {c : Char} (h : isAsciiLetter c = true) : isBlank c = false := by
  have hrange : 65 ≤ c.toNat ∧ c.toNat ≤ 90 ∨ 97 ≤ c.toNat ∧ c.toNat ≤ 122 := by
    simpa [isAsciiLetter, Char.le_def, UInt32.le_iff_toNat_le] using h
  cases hblank : isBlank c with
  | false => rfl
  | true =>
    simp only [isBlank, Bool.or_eq_true, Bool.and_eq_true, decide_eq_true_eq] at hblank
    omega

/-- The text between the brackets has no blanks at its ends. -/
lemma Canonical.bare_content {r : Reference} (h : r.Canonical) : Bare isBlank r.content := by
  cases h with
  | @field entity label hentity =>
    have hbracket : Bare isBlank [')'] := bare_singleton (by decide)
    simpa [content] using hentity.bare.append hbracket (".(" ++ label)
  | lettered hcategory hname =>
    have hletter := bare_singleton (not_isBlank_of_isAsciiLetter hcategory)
    simpa [content] using hletter.append hname.bare ['\\']
  | starred hname =>
    have hstar : Bare isBlank ['*'] := bare_singleton (by decide)
    simpa [content] using hstar.append hname.bare []

/-- The text between the brackets does not close them. -/
lemma Canonical.closing_not_mem {r : Reference} (h : r.Canonical) : '」' ∉ r.content := by
  cases h with
  | field hentity hlabel => simp [content, hentity.closing_not_mem, hlabel.closing_not_mem]
  | @lettered category name hcategory hname =>
    have hletter : '」' ≠ category := by
      rintro rfl
      cases hcategory
    simp [content, hname.closing_not_mem, hletter]
  | starred hname => simp [content, hname.closing_not_mem]

/-- **What is written between the brackets is read.** -/
lemma ofContent?_content {r : Reference} (h : r.Canonical) : ofContent? r.content = some r := by
  have htrim : trim r.content = r.content := h.bare_content.trimBy_eq
  rw [ofContent?_eq_some_iff, htrim]
  cases h with
  | @field entity label hentity hlabel hline hunmarked hopening hclosing =>
    have hdot : Unmarked (content (.field entity label)) := by
      simpa [content] using hunmarked.append_dot hentity.ne_nil ('(' :: (label ++ [')']))
    have hread := ReadAs.field hdot rfl hline hopening hclosing
      (by simp [hentity.trim_eq, hentity.ne_nil]) (by simp [hlabel.trim_eq, hlabel.ne_nil])
    rwa [hentity.trim_eq, hlabel.trim_eq] at hread
  | @lettered category name hcategory hname =>
    have hread := ReadAs.lettered (t := content (.variable category name)) hcategory rfl
      (by simp [hname.trim_eq, hname.ne_nil])
    rwa [hname.trim_eq] at hread
  | @starred name hname =>
    have hread :=
      ReadAs.starred (t := content (.flag name)) rfl (by simp [hname.trim_eq, hname.ne_nil])
    rwa [hname.trim_eq] at hread

/-- **What is read from between the brackets can be written.** -/
lemma canonical_of_ofContent? {t : Text} {r : Reference} (hclosing : '」' ∉ t)
    (h : ofContent? t = some r) : r.Canonical := by
  have hinside : '」' ∉ trim t := fun hmem => hclosing (trim_subset t hmem)
  rw [ofContent?_eq_some_iff] at h
  cases h with
  | starred ht hname =>
    rw [ht] at hinside
    exact .starred (isName_trim hname (by simp_all))
  | lettered hcategory ht hname =>
    rw [ht] at hinside
    exact .lettered hcategory (isName_trim hname (by simp_all))
  | @field entity label hunmarked ht hline hopening hbracket hentity hlabel =>
    -- the identifier starts where the text does, so trimming takes away its end only
    have hstart : trim entity <+: trim t := by
      have hne : trim t ≠ [] := by simp [ht]
      have hbare := (isName_trim hne hclosing).bare
      rw [ht, List.append_assoc, List.append_assoc] at hbare ⊢
      exact hbare.prefix_trimBy.trans (List.prefix_append _ _)
    rw [ht] at hinside
    exact .field (isName_trim hentity (by simp_all)) (isName_trim hlabel (by simp_all))
      (fun hmem => hline (trim_subset entity hmem)) (hunmarked.mono hstart)
      (fun hmem => hopening (trim_subset label hmem))
      (fun hmem => hbracket (trim_subset label hmem))

/-! ### With the brackets -/

/-- The two ways to open the brackets. -/
def openings : List Text := ["項目「", "「"]

/-- What follows the opened brackets. -/
lemma opened_eq_some_iff (t inner : Text) :
    (after? "項目「" t <|> after? "「" t) = some inner ↔ ∃ mark ∈ openings, t = mark ++ inner := by
  rw [Option.orElse_eq_orElse, Option.orElse_eq_or, Option.or_eq_some_iff, after?_eq_some_iff,
    after?_eq_some_iff]
  constructor
  · rintro (hword | ⟨-, hbracket⟩)
    · exact ⟨_, List.mem_cons_self, hword⟩
    · exact ⟨_, List.mem_cons_of_mem _ List.mem_cons_self, hbracket⟩
  · rintro ⟨mark, hmark, rfl⟩
    simp only [openings, List.mem_cons, List.not_mem_nil, or_false] at hmark
    rcases hmark with rfl | rfl
    · exact .inl rfl
    · exact .inr ⟨rfl, rfl⟩

/-- **The text between the brackets** ends where they are closed. -/
lemma bracketed?_eq_some_iff (t inside rest : Text) :
    bracketed? t = some (inside, rest) ↔
      (∃ mark ∈ openings, t = mark ++ inside ++ "」" ++ rest) ∧ '」' ∉ inside := by
  constructor
  · intro h
    obtain ⟨inner, hinner, h⟩ := Option.bind_eq_some_iff.mp h
    obtain ⟨⟨before, d, after⟩, hcut, heq⟩ := Option.bind_eq_some_iff.mp h
    obtain ⟨rfl, rfl⟩ := Prod.mk.inj (Option.some.inj heq)
    obtain ⟨mark, hmark, rfl⟩ := (opened_eq_some_iff _ _).mp hinner
    obtain ⟨rfl, hinside, hd⟩ := (cutBy?_eq_some_iff _ _ _ _ _).mp hcut
    obtain rfl : d = '」' := by simpa using hd
    exact ⟨⟨mark, hmark, by simp⟩, fun hmem => by simpa using hinside _ hmem⟩
  · rintro ⟨⟨mark, hmark, rfl⟩, hinside⟩
    have hinner := (opened_eq_some_iff _ (inside ++ '」' :: rest)).mpr ⟨mark, hmark, rfl⟩
    have hcut : cutBy? (· = '」') (inside ++ '」' :: rest) = some (inside, '」', rest) := by
      refine (cutBy?_eq_some_iff _ _ _ _ _).mpr ⟨rfl, fun c hc => ?_, by simp⟩
      exact decide_eq_false fun heq => hinside (heq ▸ hc)
    have hshape : mark ++ inside ++ "」" ++ rest = mark ++ (inside ++ '」' :: rest) := by simp
    rw [hshape, bracketed?, hinner, Option.bind_eq_bind, Option.bind_some, hcut]
    rfl

/-- The reference at the start of a line. -/
lemma leading?_written {r : Reference} (h : r.Canonical) {mark : Text} (hmark : mark ∈ openings)
    (rest : Text) : leading? (mark ++ r.content ++ "」" ++ rest) = some (r, rest) := by
  have hbracketed := (bracketed?_eq_some_iff _ r.content rest).mpr
    ⟨⟨mark, hmark, rfl⟩, h.closing_not_mem⟩
  rw [leading?, hbracketed]
  exact congrArg (Option.bind · fun r => some (r, rest)) (ofContent?_content h)

/-- A token that is a reference. -/
lemma ofToken?_written {r : Reference} (h : r.Canonical) {mark : Text} (hmark : mark ∈ openings) :
    ofToken? (mark ++ r.content ++ "」") = some r := by
  have hbare : Bare isBlank (mark ++ r.content ++ "」") := by
    have hopening : Bare isBlank mark := by
      simp only [openings, List.mem_cons, List.not_mem_nil, or_false] at hmark
      rcases hmark with rfl | rfl
      · exact ⟨⟨'項', "目「", rfl, by decide⟩, ⟨"項目", '「', rfl, by decide⟩⟩
      · exact bare_singleton (by decide)
    exact hopening.append (bare_singleton (by decide)) r.content
  have hbracketed := (bracketed?_eq_some_iff (mark ++ r.content ++ "」") r.content []).mpr
    ⟨⟨mark, hmark, by simp⟩, h.closing_not_mem⟩
  have htrim : trim (mark ++ r.content ++ "」") = mark ++ r.content ++ "」" := hbare.trimBy_eq
  simp only [ofToken?, htrim, hbracketed, ofContent?_content h]

/-- What is read from a token can be written. -/
lemma canonical_of_ofToken? {token : Text} {r : Reference} (h : ofToken? token = some r) :
    r.Canonical := by
  unfold ofToken? at h
  split at h
  next inside hbracketed =>
    exact canonical_of_ofContent? ((bracketed?_eq_some_iff _ _ _).mp hbracketed).2 h
  next => cases h

/-- **Writing and reading references.**  A reference that can be written is read from its notation,
with the word in front of the brackets or without it, as a token and at the start of every line.
What is read from any token can be written, and is read from its notation again. -/
theorem read_written (r : Reference) :
    (r.Canonical → ∀ mark ∈ openings, ofToken? (mark ++ r.content ++ "」") = some r ∧
      ∀ rest, leading? (mark ++ r.content ++ "」" ++ rest) = some (r, rest)) ∧
    ∀ token, ofToken? token = some r →
      r.Canonical ∧ ∀ mark ∈ openings, ofToken? (mark ++ r.content ++ "」") = some r := by
  refine ⟨fun h mark hmark => ⟨ofToken?_written h hmark, leading?_written h hmark⟩,
    fun token h => ?_⟩
  have hcanonical := canonical_of_ofToken? h
  exact ⟨hcanonical, fun mark hmark => ofToken?_written hcanonical hmark⟩

/-- A field whose identifier looks like a field, with a backslash and brackets of its own. -/
def nestedField : Reference := .field "手袋.(Ｌ\\「１)" "請求 コード"

/-- It is read from a token with blanks in it, and from its notation. -/
theorem read_written_nestedField :
    ofToken? " 「手袋.(Ｌ\\「１) .( 請求 コード)」" = some nestedField ∧ nestedField.Canonical ∧
      nestedField.content = "手袋.(Ｌ\\「１).(請求 コード)" ∧
      ofToken? ("「" ++ nestedField.content ++ "」") = some nestedField ∧
      leading? ("項目「" ++ nestedField.content ++ "」" ++ "＝「*a」") =
        some (nestedField, ("＝「*a」" : Text)) := by
  have hread : ofToken? " 「手袋.(Ｌ\\「１) .( 請求 コード)」" = some nestedField := by decide +kernel
  obtain ⟨hcanonical, hagain⟩ := (read_written nestedField).2 _ hread
  have hwritten := (read_written nestedField).1 hcanonical "項目「" (by simp [openings])
  exact ⟨hread, hcanonical, by decide +kernel, hagain "「" (by simp [openings]), hwritten.2 _⟩

end RuleSheet.Reference
