import Mathlib.Data.List.TakeWhile
import RuleSheet.Java.Declaration

/-!
# Word characters and blanks

Names end where a character stands that is no word character; blanks are such characters.

## Main results

* `RuleSheet.Text.not_isBlank_of_isWord` — no blank is a word character.
* `RuleSheet.Text.isWord_of_isNameStart` — names start with word characters.
* `RuleSheet.Text.takeWhile_run`, `dropWhile_run` — a run of characters up to the first other one.
-/

set_option autoImplicit false

namespace RuleSheet.Text

/-- The code points of white space. -/
def blankCodes : List Nat :=
  List.range' 0x9 5 ++ [0x20, 0x85, 0xA0, 0x1680] ++ List.range' 0x2000 11 ++
    [0x2028, 0x2029, 0x202F, 0x205F, 0x3000]

lemma mem_blankCodes {c : Char} (h : isBlank c = true) : c.toNat ∈ blankCodes := by
  simp only [isBlank, Bool.or_eq_true, Bool.and_eq_true, decide_eq_true_eq] at h
  simp only [blankCodes, List.mem_append, List.mem_range'_1, List.mem_cons, List.not_mem_nil,
    or_false]
  omega

/-- No blank is a word character. -/
lemma not_isBlank_of_isWord {c : Char} (h : isWord c = true) : isBlank c = false := by
  have hcodes : ∀ n ∈ blankCodes, inRanges n wordRangesAlphabets = false ∧
      inRanges n wordRangesIdeographs = false ∧ inRanges n wordRangesHistoric = false := by
    decide +kernel
  cases hblank : isBlank c with
  | false => rfl
  | true =>
    obtain ⟨halphabets, hideographs, hhistoric⟩ := hcodes c.toNat (mem_blankCodes hblank)
    simp [isWord, halphabets, hideographs, hhistoric] at h

/-- Names start with word characters. -/
lemma isWord_of_isNameStart {c : Char} (h : Java.isNameStart c = true) : isWord c = true := by
  have hcodes : ∀ n ∈ List.range' 0x41 26 ++ List.range' 0x61 26 ++ [0x5F],
      inRanges n wordRangesAlphabets = true := by
    decide +kernel
  have hmem : c.toNat ∈ List.range' 0x41 26 ++ List.range' 0x61 26 ++ [0x5F] := by
    simp only [Java.isNameStart, Bool.or_eq_true, Bool.and_eq_true, decide_eq_true_eq,
      Char.le_def, UInt32.le_iff_toNat_le] at h
    simp only [List.mem_append, List.mem_range'_1, List.mem_singleton]
    rcases h with (⟨hfirst, hlast⟩ | ⟨hfirst, hlast⟩) | rfl
    · exact .inl (.inl ⟨hfirst, Nat.lt_succ_of_le hlast⟩)
    · exact .inl (.inr ⟨hfirst, Nat.lt_succ_of_le hlast⟩)
    · exact .inr rfl
  rw [isWord, hcodes _ hmem]
  rfl

/-! ### Runs of characters -/

section

variable {p : Char → Bool} {s : Text} {c : Char}

/-- A run of characters of a class ends before the first other character. -/
lemma takeWhile_run (hs : ∀ d ∈ s, p d = true) (hc : p c = false) (t : Text) :
    (s ++ c :: t).takeWhile p = s := by
  rw [List.takeWhile_append_of_pos hs, List.takeWhile_cons_of_neg (by simp [hc]), List.append_nil]

/-- Behind such a run stands the first other character. -/
lemma dropWhile_run (hs : ∀ d ∈ s, p d = true) (hc : p c = false) (t : Text) :
    (s ++ c :: t).dropWhile p = c :: t := by
  rw [List.dropWhile_append_of_pos hs, List.dropWhile_cons_of_neg (by simp [hc])]

end

end RuleSheet.Text
