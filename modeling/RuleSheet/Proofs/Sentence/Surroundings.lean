import RuleSheet.Proofs.Sentence.Recognition
import RuleSheet.Proofs.Text.Marks

/-!
# Texts in their surroundings

The rules look for references, for the word for an empty value and for bits anywhere behind the
reference of a line.  What they find does not depend on characters that occur in none of these.

## Main definitions

* `RuleSheet.telling`, `isTelling` — the characters of the words for an empty value, the brackets of
  references and the quotes of bits.

## Main results

* `RuleSheet.mentionsBlank_surround`, `RuleSheet.Reference.occursIn_surround` — what is found in a
  text between characters that are not telling.
* `RuleSheet.Reference.leading?_append` — the reference at the start of a text stays when the text
  goes on.
-/

set_option autoImplicit false

namespace RuleSheet

open Text

/-! ### References, empty values and bits -/

/-- The characters of the words for an empty value, the brackets of references and the quotes of
bits. -/
def telling : Text := "ブランクﾌﾞﾗﾝｸ「」'＇‘’"

/-- Whether a character is one of them. -/
def isTelling (c : Char) : Bool := decide (c ∈ telling)

lemma isTelling_of_isBitQuote {c : Char} (h : Sentence.isBitQuote c = true) :
    isTelling c = true := by
  simp only [Sentence.isBitQuote, Bool.or_eq_true, decide_eq_true_eq] at h
  rcases h with ((rfl | rfl) | rfl) | rfl <;> decide

section Surround

variable {u v : Text}

/-- The word for an empty value stands in a text, and not around it. -/
lemma mentionsBlank_surround (hu : ∀ c ∈ u, isTelling c = false) (hv : ∀ c ∈ v, isTelling c = false)
    (t : Text) : mentionsBlank (u ++ t ++ v) = mentionsBlank t := by
  have hall : blankWords.all (·.all isTelling) = true := by decide
  have hword : ∀ word ∈ blankWords, ∀ c, isTelling c = false → c ∉ word := by
    intro word hword c hc hmem
    rw [List.all_eq_true.mp (List.all_eq_true.mp hall word hword) c hmem] at hc
    cases hc
  have hcontains : ∀ word ∈ blankWords,
      Text.contains (u ++ t ++ v) word = Text.contains t word := by
    intro word hmem
    have hne : word ≠ [] := by
      rintro rfl
      simp [blankWords] at hmem
    exact contains_surround hne (fun c hc => hword word hmem c (hu c hc))
      (fun c hc => hword word hmem c (hv c hc)) t
  simp only [mentionsBlank, blankWords, List.any_cons, List.any_nil,
    hcontains "ブランク" (by simp [blankWords]), hcontains "ﾌﾞﾗﾝｸ" (by simp [blankWords])]

namespace Reference

/-- An open bracket is not closed by what has no closing one. -/
lemma contentsFrom_append {v : Text} (hopening : '「' ∉ v) (hclosing : '」' ∉ v) (t : Text) :
    ∀ opened : Option Text, contentsFrom opened (t ++ v) = contentsFrom opened t := by
  induction t with
  | nil =>
    intro opened
    cases opened with
    | none => exact Sentence.contentsFrom_of_not_mem hopening
    | some inside =>
      have hnil : ∀ inside, contentsFrom (some inside) v = [] := by
        induction v with
        | nil => exact fun _ => rfl
        | cons c v ih =>
          intro inside
          rw [List.mem_cons, not_or] at hopening hclosing
          rw [contentsFrom, if_neg (Ne.symm hclosing.1)]
          exact ih hopening.2 hclosing.2 _
      exact hnil inside
  | cons c t ih =>
    intro opened
    cases opened with
    | none => exact ih _
    | some inside =>
      rw [List.cons_append, contentsFrom, contentsFrom, ih, ih]

/-- References stand in a text, and not around it. -/
lemma occursIn_surround (hu : ∀ c ∈ u, isTelling c = false) (hv : ∀ c ∈ v, isTelling c = false)
    (t : Text) : occursIn (u ++ t ++ v) = occursIn t := by
  have hnot : ∀ {w : Text} {d : Char}, isTelling d = true → (∀ c ∈ w, isTelling c = false) →
      d ∉ w := by
    intro w d hd hw hmem
    rw [hw d hmem] at hd
    cases hd
  rw [occursIn, occursIn, contentsFrom_append (hnot (by decide) hv) (hnot (by decide) hv),
    Sentence.contentsFrom_append_left (hnot (by decide) hu)]

end Reference

/-- Bits stand in a text, and not behind it. -/
lemma Sentence.bit?_append (hv : ∀ c ∈ v, isTelling c = false) (t : Text) :
    bit? (t ++ v) = bit? t := by
  have hquote : ∀ c ∈ v, isBitQuote c = false := by
    intro c hc
    have hquiet := hv c hc
    by_contra hquote
    rw [isTelling_of_isBitQuote (by simpa using hquote)] at hquiet
    cases hquiet
  induction t with
  | nil => exact bit?_of_forall hquote
  | cons c t ih =>
    -- a bit takes three characters, and the last of them is a quote
    have hhere : bitHere? (c :: (t ++ v)) = bitHere? (c :: t) := by
      rcases t with _ | ⟨a, _ | ⟨b, t⟩⟩
      · rcases v with _ | ⟨a, _ | ⟨b, v⟩⟩
        · rfl
        · rfl
        · simp [bitHere?, hquote b (by simp)]
      · rcases v with _ | ⟨b, v⟩
        · rfl
        · simp [bitHere?, hquote b (by simp)]
      · rfl
    rw [List.cons_append, bit?, bit?, hhere, ih]

end Surround

/-! ### The reference at the start of a line -/

namespace Reference

variable {t inside rest : Text} {r : Reference}

/-- The brackets at the start of a text stay when the text goes on. -/
lemma bracketed?_append (h : bracketed? t = some (inside, rest)) (u : Text) :
    bracketed? (t ++ u) = some (inside, rest ++ u) := by
  rw [bracketed?_eq_some_iff] at h ⊢
  obtain ⟨⟨mark, hmark, rfl⟩, hinside⟩ := h
  exact ⟨⟨mark, hmark, List.append_assoc _ _ _⟩, hinside⟩

/-- The reference at the start of a text stays when the text goes on. -/
lemma leading?_append (h : leading? t = some (r, rest)) (u : Text) :
    leading? (t ++ u) = some (r, rest ++ u) := by
  obtain ⟨⟨inside, behind⟩, hbracketed, h⟩ := Option.bind_eq_some_iff.mp h
  obtain ⟨r', hr', heq⟩ := Option.bind_eq_some_iff.mp h
  obtain ⟨rfl, rfl⟩ := Prod.mk.inj (Option.some.inj heq)
  rw [leading?, bracketed?_append hbracketed u]
  exact congrArg (Option.bind · fun r => some (r, behind ++ u)) hr'

end Reference

end RuleSheet
