import Mathlib.Data.List.Induction
import Mathlib.Tactic.Lemma
import RuleSheet.Text.Digits

/-!
# Numbers as Java reads them

A number of a rule sheet is a run of decimal digits of either width.  It becomes a run of ASCII
digits, and Java reads such a run in base ten, unless it starts with a zero: then what follows is
read in base eight.

## Main definitions

* `RuleSheet.Text.digitValue`, `numberValue` — the value of a digit and of a run of digits.
* `RuleSheet.Text.Padded` — a run of digits with a zero in front of others.
* `RuleSheet.Java.inBase?`, `integer?` — the value of an integer literal.

## Main results

* `RuleSheet.Java.inBase?_ten` — in base ten a run of digits keeps its value.
* `RuleSheet.Java.inBase?_eight_iff` — in base eight it keeps a value below eight, and no other.
* `RuleSheet.Java.integer?_foldDigits_iff` — which numbers keep their value.
-/

set_option autoImplicit false

namespace RuleSheet

namespace Text

/-! ### The value of a number -/

/-- The value of a digit of either width. -/
def digitValue (c : Char) : Nat :=
  if isWideDigit c then c.toNat - '０'.toNat else c.toNat - '0'.toNat

/-- The value of a run of digits, the most significant one first. -/
def numberValue (t : Text) : Nat := t.foldl (fun n c => 10 * n + digitValue c) 0

/-- A run of digits with a zero in front of others. -/
def Padded (t : Text) : Prop := ∃ c rest, t = c :: rest ∧ digitValue c = 0 ∧ rest ≠ []

/-- One more digit at the end. -/
lemma numberValue_concat (t : Text) (c : Char) :
    numberValue (t ++ [c]) = 10 * numberValue t + digitValue c := by
  rw [numberValue, List.foldl_append]
  rfl

/-- A zero in front does not count. -/
lemma numberValue_zero_cons {c : Char} (hc : digitValue c = 0) (t : Text) :
    numberValue (c :: t) = numberValue t := by
  rw [numberValue, List.foldl_cons, hc]
  rfl

/-- A digit is folded to the ASCII digit of its value. -/
lemma toNat_foldDigit {c : Char} (hc : isDigit c = true) :
    (foldDigit c).toNat = '0'.toNat + digitValue c ∧ digitValue c < 10 := by
  have hzero : '0'.toNat = 48 := rfl
  have hwideZero : '０'.toNat = 65296 := rfl
  rw [isDigit, Bool.or_eq_true] at hc
  rw [foldDigit, digitValue]
  split
  next hwide =>
    have hrange : 65296 ≤ c.toNat ∧ c.toNat ≤ 65305 := by
      simpa [isWideDigit, Char.le_def, UInt32.le_iff_toNat_le] using hwide
    have hvalid : (c.toNat - '０'.toNat + '0'.toNat).isValidChar := .inl (by omega)
    have hfold : (Char.ofNat (c.toNat - '０'.toNat + '0'.toNat)).toNat =
        c.toNat - '０'.toNat + '0'.toNat := by
      rw [Char.ofNat, dif_pos hvalid]
      rfl
    omega
  next hwide =>
    have hrange : 48 ≤ c.toNat ∧ c.toNat ≤ 57 := by
      simpa [isAsciiDigit, Char.le_def, UInt32.le_iff_toNat_le] using hc.resolve_right hwide
    omega

/-- Folding goes digit by digit. -/
lemma foldDigits_concat (t : Text) (c : Char) :
    foldDigits (t ++ [c]) = foldDigits t ++ [foldDigit c] := List.map_append

end Text

namespace Java

open Text

/-! ### Integer literals -/

/-- One more digit behind a number that was read in a base. -/
def nextDigit? (base n : Nat) (c : Char) : Option Nat :=
  if '0'.toNat ≤ c.toNat ∧ c.toNat < '0'.toNat + base then some (base * n + (c.toNat - '0'.toNat))
  else none

/-- The number that ASCII digits stand for in a base up to ten, if all of them are digits of it. -/
def inBase? (base : Nat) (t : Text) : Option Nat := t.foldlM (nextDigit? base) 0

/-- The value of an integer literal that is made of digits.  With a zero in front the rest is read
in base eight; a zero alone has the value zero either way. -/
def integer? : Text → Option Nat
  | [] => none
  | '0' :: rest => inBase? 8 rest
  | t => inBase? 10 t

/-- One more digit at the end. -/
lemma inBase?_concat (base : Nat) (t : Text) (c : Char) :
    inBase? base (t ++ [c]) = (inBase? base t).bind (nextDigit? base · c) := by
  rw [inBase?, List.foldlM_append]
  simp [inBase?, bind]

/-- A digit behind a number that was read in a base. -/
lemma nextDigit?_foldDigit (base n : Nat) {c : Char} (hc : isDigit c = true) :
    nextDigit? base n (foldDigit c) =
      if digitValue c < base then some (base * n + digitValue c) else none := by
  rw [nextDigit?, (toNat_foldDigit hc).1]
  simp

/-- **In base ten a run of digits keeps its value.** -/
lemma inBase?_ten {t : Text} (ht : ∀ c ∈ t, isDigit c = true) :
    inBase? 10 (foldDigits t) = some (numberValue t) := by
  induction t using List.reverseRecOn with
  | nil => rfl
  | append_singleton t c ih =>
    have hc : isDigit c = true := ht c (by simp)
    have hten : digitValue c < 10 := (toNat_foldDigit hc).2
    rw [foldDigits_concat, inBase?_concat, ih fun d hd => ht d (by simp [hd]), Option.bind_some,
      nextDigit?_foldDigit 10 _ hc, if_pos hten, numberValue_concat]

/-- In base eight a run of digits has at most its value. -/
lemma le_of_inBase?_eight {t : Text} (ht : ∀ c ∈ t, isDigit c = true) {v : Nat}
    (h : inBase? 8 (foldDigits t) = some v) : v ≤ numberValue t := by
  induction t using List.reverseRecOn generalizing v with
  | nil => exact Nat.le_of_eq (Option.some.inj h).symm
  | append_singleton t c ih =>
    rw [foldDigits_concat, inBase?_concat] at h
    obtain ⟨n, hn, hv⟩ := Option.bind_eq_some_iff.mp h
    have hle := ih (fun d hd => ht d (by simp [hd])) hn
    rw [nextDigit?_foldDigit 8 n (ht c (by simp))] at hv
    split at hv
    next =>
      rw [numberValue_concat]
      have := Option.some.inj hv
      omega
    next => cases hv

/-- **In base eight a run of digits keeps a value below eight**, and no other.

**Proof sketch.** Induction on the run, from its end.  If all digits but the last make `n` in base
ten and at most `n` in base eight, the two values can only be the same if `n` is zero. -/
lemma inBase?_eight_iff {t : Text} (ht : ∀ c ∈ t, isDigit c = true) :
    inBase? 8 (foldDigits t) = some (numberValue t) ↔ numberValue t < 8 := by
  induction t using List.reverseRecOn with
  | nil => decide
  | append_singleton t c ih =>
    have hfront : ∀ d ∈ t, isDigit d = true := fun d hd => ht d (by simp [hd])
    rw [foldDigits_concat, inBase?_concat, numberValue_concat]
    constructor
    · intro h
      obtain ⟨n, hn, hv⟩ := Option.bind_eq_some_iff.mp h
      have hle := le_of_inBase?_eight hfront hn
      rw [nextDigit?_foldDigit 8 n (ht c (by simp))] at hv
      split at hv
      next =>
        have := Option.some.inj hv
        omega
      next => cases hv
    · intro h
      have hn := (ih hfront).mpr (by omega)
      have hsmall : digitValue c < 8 := by omega
      rw [hn, Option.bind_some, nextDigit?_foldDigit 8 _ (ht c (by simp)), if_pos hsmall]
      congr 1
      omega

/-- A digit is folded to a zero exactly if its value is zero. -/
lemma foldDigit_eq_zero_iff {c : Char} (hc : isDigit c = true) :
    foldDigit c = '0' ↔ digitValue c = 0 := by
  have hvalue := (toNat_foldDigit hc).1
  rw [← Char.toNat_inj, hvalue]
  omega

/-- **Which numbers keep their value**: those without a zero in front of others, and those below
eight. -/
lemma integer?_foldDigits_iff {d : Text} (hd : isNumber d = true) :
    integer? (foldDigits d) = some (numberValue d) ↔ ¬ Padded d ∨ numberValue d < 8 := by
  rw [isNumber, Bool.and_eq_true, List.all_eq_true] at hd
  obtain ⟨hne, hdigits⟩ := hd
  cases d with
  | nil => cases hne
  | cons c rest =>
    have hc : isDigit c = true := hdigits c List.mem_cons_self
    have hrest : ∀ e ∈ rest, isDigit e = true := fun e he => hdigits e (List.mem_cons_of_mem c he)
    have hcons : foldDigits (c :: rest) = foldDigit c :: foldDigits rest := rfl
    by_cases hzero : digitValue c = 0
    · have hoctal : integer? (foldDigits (c :: rest)) = inBase? 8 (foldDigits rest) := by
        rw [hcons, (foldDigit_eq_zero_iff hc).mpr hzero]
        rfl
      rw [hoctal, numberValue_zero_cons hzero, inBase?_eight_iff hrest]
      refine ⟨.inr, fun h => h.elim (fun hpadded => ?_) id⟩
      -- a zero alone
      obtain rfl : rest = [] := by
        by_contra hmore
        exact hpadded ⟨c, rest, rfl, hzero, hmore⟩
      decide
    · have hdecimal : integer? (foldDigits (c :: rest)) = inBase? 10 (foldDigits (c :: rest)) := by
        rw [hcons, integer?]
        · simp
        · exact fun _ h => hzero ((foldDigit_eq_zero_iff hc).mp (List.cons.inj h).1)
      rw [hdecimal, inBase?_ten hdigits]
      refine ⟨fun _ => .inl ?_, fun _ => rfl⟩
      rintro ⟨c', rest', heq, hzero', -⟩
      exact hzero ((List.cons.inj heq).1 ▸ hzero')

end Java

end RuleSheet
