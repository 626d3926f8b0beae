import RuleSheet.Text.Basic

/-!
# Widths

The room that a text takes on a terminal, in cells.  Characters of the East Asian scripts and
full-width forms take two cells, all others one.

## Main definitions

* `RuleSheet.Text.cells` — the cells of one character.
* `RuleSheet.Text.width` — the cells of a text.
* `RuleSheet.Text.padTo` — a text filled up with spaces to a width.

## Main results

* `RuleSheet.Text.width_append` — widths add up.
* `RuleSheet.Text.width_padTo` — a padded text has the width asked for, unless it was wider.
-/

set_option autoImplicit false

namespace RuleSheet.Text

/-- The number of cells that a character takes. -/
def cells (c : Char) : Nat :=
  let n := c.toNat
  if (0x1100 ≤ n && n ≤ 0x115F) || (0x2E80 ≤ n && n ≤ 0xA4CF) || (0xAC00 ≤ n && n ≤ 0xD7A3) ||
      (0xF900 ≤ n && n ≤ 0xFAFF) || (0xFE30 ≤ n && n ≤ 0xFE4F) || (0xFF00 ≤ n && n ≤ 0xFF60) ||
      (0xFFE0 ≤ n && n ≤ 0xFFE6) then 2
  else 1

/-- The number of cells that a text takes. -/
def width : Text → Nat
  | [] => 0
  | c :: t => cells c + width t

@[simp]
theorem width_nil : width [] = 0 := rfl

@[simp]
theorem width_append (s t : Text) : width (s ++ t) = width s + width t := by
  induction s with
  | nil => simp
  | cons c s ih => simp only [List.cons_append, width, ih, Nat.add_assoc]

/-- The text with as many spaces behind it as it takes to fill a width. -/
def padTo (w : Nat) (t : Text) : Text := t ++ List.replicate (w - width t) ' '

theorem width_replicate (n : Nat) (c : Char) : width (List.replicate n c) = n * cells c := by
  induction n with
  | zero => simp
  | succ n ih => rw [List.replicate_succ, width, ih, Nat.succ_mul, Nat.add_comm]

theorem width_padTo (w : Nat) (t : Text) : width (padTo w t) = max w (width t) := by
  have space : cells ' ' = 1 := rfl
  rw [padTo, width_append, width_replicate, space]
  omega

end RuleSheet.Text
