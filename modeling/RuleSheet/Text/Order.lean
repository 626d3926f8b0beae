import RuleSheet.Text.Basic

/-!
# The order of texts

Texts are compared character by character, and characters by their code points; a text stands
before its own extensions.  Rows of texts, such as the pieces of a path, are compared piece by
piece in the same way.

## Main definitions

* `RuleSheet.Text.rowPrecedes` — the dictionary order of rows over an order of their members.
* `RuleSheet.Text.precedes` — the order of texts.

## Main results

* `RuleSheet.Text.precedes_trans` — the order is transitive.
* `RuleSheet.Text.precedes_of_not_precedes` — of two different texts one stands before the other.
-/

set_option autoImplicit false

namespace RuleSheet.Text

/-- Whether a row stands before another: at the first difference its member does, or it ends. -/
def rowPrecedes {α : Type} [DecidableEq α] (before : α → α → Bool) : List α → List α → Bool
  | _, [] => false
  | [], _ :: _ => true
  | a :: s, b :: t => before a b || (decide (a = b) && rowPrecedes before s t)

/-- Whether a text stands before another. -/
def precedes (s t : Text) : Bool := rowPrecedes (fun a b => decide (a.toNat < b.toNat)) s t

/-! ### A strict order -/

section

variable {α : Type} [DecidableEq α] {before : α → α → Bool}

theorem rowPrecedes_cons (a b : α) (s t : List α) :
    rowPrecedes before (a :: s) (b :: t) = true ↔
      before a b = true ∨ (a = b ∧ rowPrecedes before s t = true) := by
  simp [rowPrecedes]

/-- The order of rows is transitive if that of their members is. -/
theorem rowPrecedes_trans
    (trans : ∀ a b c, before a b = true → before b c = true → before a c = true) :
    ∀ s t u : List α, rowPrecedes before s t = true → rowPrecedes before t u = true →
      rowPrecedes before s u = true
  | _, [], _, h, _ => by simp [rowPrecedes] at h
  | _, _ :: _, [], _, h => by simp [rowPrecedes] at h
  | [], _ :: _, _ :: _, _, _ => rfl
  | a :: s, b :: t, c :: u, h, h' => by
    rw [rowPrecedes_cons] at h h' ⊢
    rcases h with h | ⟨rfl, h⟩
    · rcases h' with h' | ⟨rfl, _⟩
      · exact Or.inl (trans a b c h h')
      · exact Or.inl h
    · rcases h' with h' | ⟨rfl, h'⟩
      · exact Or.inl h'
      · exact Or.inr ⟨rfl, rowPrecedes_trans trans s t u h h'⟩

/-- Of two different rows one stands before the other if that holds of their members. -/
theorem rowPrecedes_of_not_rowPrecedes
    (total : ∀ a b, a ≠ b → before a b = false → before b a = true) :
    ∀ s t : List α, s ≠ t → rowPrecedes before s t = false → rowPrecedes before t s = true
  | [], [], h, _ => absurd rfl h
  | [], _ :: _, _, h => by simp [rowPrecedes] at h
  | _ :: _, [], _, _ => rfl
  | a :: s, b :: t, hne, h => by
    rw [rowPrecedes_cons]
    simp only [rowPrecedes, Bool.or_eq_false_iff, Bool.and_eq_false_iff,
      decide_eq_false_iff_not] at h
    by_cases hab : a = b
    · subst hab
      refine Or.inr ⟨rfl, rowPrecedes_of_not_rowPrecedes total s t ?_ ?_⟩
      · intro hst
        exact hne (by rw [hst])
      · rcases h.2 with h | h
        · exact absurd rfl h
        · exact h
    · exact Or.inl (total a b hab h.1)

end

/-- The order of texts is transitive. -/
theorem precedes_trans {s t u : Text} (h : precedes s t = true) (h' : precedes t u = true) :
    precedes s u = true := by
  refine rowPrecedes_trans ?_ s t u h h'
  intro a b c hab hbc
  rw [decide_eq_true_eq] at hab hbc ⊢
  exact Nat.lt_trans hab hbc

/-- Of two different texts one stands before the other. -/
theorem precedes_of_not_precedes {s t : Text} (hne : s ≠ t) (h : precedes s t = false) :
    precedes t s = true := by
  refine rowPrecedes_of_not_rowPrecedes ?_ s t hne h
  intro a b hab hlt
  rw [decide_eq_false_iff_not] at hlt
  rw [decide_eq_true_eq]
  have hval : a.toNat ≠ b.toNat := fun h => hab (Char.toNat_inj.mp h)
  omega

end RuleSheet.Text
