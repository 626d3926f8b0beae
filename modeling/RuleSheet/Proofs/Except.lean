import Mathlib.Tactic.Lemma

/-!
# Results of computations that can fail

When a computation in several steps has a result, and which.

## Main results

* `Except.bind_eq_ok_iff`, `map_eq_ok_iff`, `mapError_eq_ok_iff` — the results of steps that follow
  each other, of an image, and of a step whose failures are put in other words.
* `Except.isOk_iff` — a computation that succeeds has a result.
-/

set_option autoImplicit false

namespace Except

variable {ε ε' α β : Type} {x : Except ε α}

/-- Two steps have a result if both have one. -/
lemma bind_eq_ok_iff {f : α → Except ε β} {b : β} :
    x >>= f = .ok b ↔ ∃ a, x = .ok a ∧ f a = .ok b := by
  cases x with
  | error failure => simp [bind, Except.bind]
  | ok a => simp [bind, Except.bind]

/-- The image of a result. -/
lemma map_eq_ok_iff {f : α → β} {b : β} : x.map f = .ok b ↔ ∃ a, x = .ok a ∧ f a = b := by
  cases x with
  | error failure => simp [Except.map]
  | ok a => simp [Except.map]

/-- A result is the same with its failures in other words. -/
lemma mapError_eq_ok_iff {f : ε → ε'} {a : α} : x.mapError f = .ok a ↔ x = .ok a := by
  cases x with
  | error failure =>
    constructor
    · intro h
      cases h
    · intro h
      cases h
  | ok b =>
    constructor
    · intro h
      exact congrArg ok (ok.inj h)
    · intro h
      exact congrArg ok (ok.inj h)

/-- A computation that succeeds has a result. -/
lemma isOk_iff : x.isOk = true ↔ ∃ a, x = .ok a := by
  cases x with
  | error failure => simp [Except.isOk, Except.toBool]
  | ok a => simp [Except.isOk, Except.toBool]

end Except
