import Mathlib.Data.List.Basic
import RuleSheet.Text.Bracket

/-!
# Matched brackets

Brackets are matched with a stack: an opening bracket puts its place on the stack, a closing bracket
takes the topmost place off and makes a pair with it, and a closing bracket that finds the stack
empty has no partner.  This module compares the pairs with the two counts of `RuleSheet.Bracket`,
the depth on the left of a place and the closing brackets on its right.

## Main definitions

* `RuleSheet.Bracket.stackAfter`, `closed?` — what a character does with the stack.
* `RuleSheet.Bracket.pairsFrom`, `pairs` — the pairs of a text.

## Main results

* `RuleSheet.Bracket.brackets_of_mem_pairs` — a pair is made of an opening bracket and a closing one
  behind it.
* `RuleSheet.Bracket.exists_pair_iff` — a place lies inside a pair exactly if a bracket is open on
  its left and a bracket gets closed on its right.
-/

set_option autoImplicit false

namespace RuleSheet.Bracket

/-! ### The stack -/

/-- The places on the stack after a character at a place. -/
def stackAfter (b : Bracket) (place : Nat) (stack : List Nat) (c : Char) : List Nat :=
  if c = b.opening then place :: stack else if c = b.closing then stack.tail else stack

/-- The pair that a character at a place completes. -/
def closed? (b : Bracket) (place : Nat) (stack : List Nat) (c : Char) : Option (Nat × Nat) :=
  if c = b.opening then none
  else if c = b.closing then stack.head?.map fun opened => (opened, place) else none

/-- The pairs that are completed in a text, given the place of its first character and the stack
before it. -/
def pairsFrom (b : Bracket) : Nat → List Nat → Text → List (Nat × Nat)
  | _, _, [] => []
  | place, stack, c :: rest =>
    (b.closed? place stack c).toList ++ b.pairsFrom (place + 1) (b.stackAfter place stack c) rest

/-- The places on the stack after a text. -/
def stackFrom (b : Bracket) : Nat → List Nat → Text → List Nat
  | _, stack, [] => stack
  | place, stack, c :: rest => b.stackFrom (place + 1) (b.stackAfter place stack c) rest

/-- The matched pairs of brackets in a text, by their places. -/
def pairs (b : Bracket) (t : Text) : List (Nat × Nat) := b.pairsFrom 0 [] t

/-- The number of brackets that are open after a text. -/
def depth (b : Bracket) (t : Text) : Nat := t.foldl b.depthAfter 0

variable (b : Bracket)

lemma depth_concat (t : Text) (c : Char) : b.depth (t ++ [c]) = b.depthAfter (b.depth t) c := by
  simp [depth]

/-- A stack is as high as the depth says. -/
lemma length_stackAfter (place : Nat) (stack : List Nat) (c : Char) :
    (b.stackAfter place stack c).length = b.depthAfter stack.length c := by
  unfold stackAfter depthAfter
  split
  · rfl
  · split
    · exact List.length_tail
    · rfl

lemma length_stackFrom (t : Text) : ∀ (place : Nat) (stack : List Nat),
    (b.stackFrom place stack t).length = t.foldl b.depthAfter stack.length := by
  induction t with
  | nil => exact fun place stack => rfl
  | cons c t ih =>
    intro place stack
    rw [stackFrom, ih, length_stackAfter, List.foldl_cons]

/-- The only place that a character puts on the stack is its own. -/
lemma mem_stackAfter {place opened : Nat} {stack : List Nat} {c : Char}
    (h : opened ∈ b.stackAfter place stack c) :
    opened ∈ stack ∨ opened = place ∧ c = b.opening := by
  unfold stackAfter at h
  split at h
  next hc =>
    rcases List.mem_cons.mp h with rfl | h
    · exact .inr ⟨rfl, hc⟩
    · exact .inl h
  next =>
    split at h
    · exact .inl (List.mem_of_mem_tail h)
    · exact .inl h

/-- The places on a stack are those of characters that were read. -/
lemma lt_of_mem_stackFrom {t : Text} {opened : Nat} : ∀ {place : Nat} {stack : List Nat},
    (∀ o ∈ stack, o < place) → opened ∈ b.stackFrom place stack t → opened < place + t.length := by
  induction t with
  | nil => exact fun hstack h => hstack opened h
  | cons c t ih =>
    intro place stack hstack h
    have hnext : ∀ o ∈ b.stackAfter place stack c, o < place + 1 := by
      intro o ho
      rcases b.mem_stackAfter ho with ho | ⟨rfl, -⟩
      · exact Nat.lt_succ_of_lt (hstack o ho)
      · exact Nat.lt_succ_self o
    have hlt := ih hnext h
    rw [List.length_cons]
    omega

/-! ### Pairs -/

/-- A pair that a character completes. -/
lemma of_closed? {place : Nat} {stack : List Nat} {c : Char} {p : Nat × Nat}
    (h : p ∈ (b.closed? place stack c).toList) :
    p.1 ∈ stack ∧ p.2 = place ∧ c = b.closing := by
  rw [Option.mem_toList, closed?] at h
  split at h
  next => cases h
  next =>
    split at h
    next hc =>
      obtain ⟨opened, hopened, rfl⟩ := Option.map_eq_some_iff.mp h
      exact ⟨List.mem_of_mem_head? hopened, rfl, hc⟩
    next => cases h

/-- The pairs of a text in two parts. -/
lemma pairsFrom_append (s t : Text) : ∀ (place : Nat) (stack : List Nat),
    b.pairsFrom place stack (s ++ t) =
      b.pairsFrom place stack s ++
        b.pairsFrom (place + s.length) (b.stackFrom place stack s) t := by
  induction s with
  | nil => exact fun place stack => rfl
  | cons c s ih =>
    intro place stack
    rw [List.cons_append, pairsFrom, pairsFrom, stackFrom, ih, List.append_assoc, List.length_cons,
      Nat.add_assoc, Nat.add_comm 1]

/-- The closing bracket of a pair is in the text that completes it. -/
lemma snd_of_mem_pairsFrom {t : Text} {p : Nat × Nat} : ∀ {place : Nat} {stack : List Nat},
    p ∈ b.pairsFrom place stack t → place ≤ p.2 ∧ p.2 < place + t.length := by
  induction t with
  | nil => exact fun h => by cases h
  | cons c t ih =>
    intro place stack h
    rw [List.length_cons]
    rcases List.mem_append.mp h with h | h
    · obtain ⟨-, hplace, -⟩ := b.of_closed? h
      omega
    · have hrest := ih h
      omega

/-- **A pair is made of an opening bracket and a closing one behind it.** -/
lemma brackets_of_mem_pairsFrom {whole : Text} {p : Nat × Nat} (t : Text) :
    ∀ (s : Text) (stack : List Nat), whole = s ++ t →
      (∀ o ∈ stack, o < s.length ∧ whole[o]? = some b.opening) →
      p ∈ b.pairsFrom s.length stack t →
      whole[p.1]? = some b.opening ∧ whole[p.2]? = some b.closing ∧ p.1 < p.2 := by
  induction t with
  | nil => exact fun s stack hwhole hstack h => by cases h
  | cons c t ih =>
    intro s stack hwhole hstack h
    have hplace : whole[s.length]? = some c := by simp [hwhole]
    rcases List.mem_append.mp h with h | h
    · obtain ⟨hopened, hclosing, rfl⟩ := b.of_closed? h
      obtain ⟨hlt, hopening⟩ := hstack p.1 hopened
      rw [hclosing]
      exact ⟨hopening, hplace, hlt⟩
    · refine ih (s ++ [c]) _ (by rw [hwhole]; simp) ?_ (by simpa using h)
      intro o ho
      rw [List.length_append, List.length_singleton]
      rcases b.mem_stackAfter ho with ho | ⟨rfl, rfl⟩
      · obtain ⟨hlt, hopening⟩ := hstack o ho
        exact ⟨Nat.lt_succ_of_lt hlt, hopening⟩
      · exact ⟨Nat.lt_succ_self _, hplace⟩

lemma brackets_of_mem_pairs {t : Text} {p : Nat × Nat} (h : p ∈ b.pairs t) :
    t[p.1]? = some b.opening ∧ t[p.2]? = some b.closing ∧ p.1 < p.2 :=
  b.brackets_of_mem_pairsFrom t [] [] rfl (by simp) h

/-! ### Pairs around a place -/

/-- **A text closes a bracket that was open before a given place** exactly if there is one, and the
text closes more brackets than have been opened since.

**Proof sketch.** Induction on the text.  The stack consists of the places opened since, on top, and
those opened before.  An opening bracket puts one more place on top, and a closing one takes a place
off; only when all places on top are gone does it take off one of those below. -/
lemma exists_pairsFrom_iff {bound : Nat} (t : Text) :
    ∀ {place : Nat} (since before : List Nat), bound ≤ place → (∀ o ∈ since, bound ≤ o) →
      (∀ o ∈ before, o < bound) →
      ((∃ p ∈ b.pairsFrom place (since ++ before) t, p.1 < bound) ↔
        before ≠ [] ∧ since.length < b.closes t) := by
  induction t with
  | nil => simp [pairsFrom, closes]
  | cons c t ih =>
    intro place since before hplace hsince hbefore
    have hnext : bound ≤ place + 1 := Nat.le_succ_of_le hplace
    simp only [pairsFrom, List.mem_append, or_and_right, exists_or]
    by_cases hopening : c = b.opening
    · have hpushed : ∀ o ∈ place :: since, bound ≤ o := by simpa [hplace] using hsince
      have hstep := ih (place :: since) before hnext hpushed hbefore
      simp only [closed?, stackAfter, closes, if_pos hopening, Option.toList_none, List.not_mem_nil,
        false_and, exists_false, false_or]
      have hheight : since.length + 1 < b.closes t ↔ since.length < b.closes t - 1 := by omega
      rw [← List.cons_append, hstep, List.length_cons, hheight]
    · by_cases hclosing : c = b.closing
      · simp only [closed?, stackAfter, closes, if_neg hopening, if_pos hclosing]
        cases since with
        | cons top since =>
          have htop : bound ≤ top := hsince top List.mem_cons_self
          have hstep :=
            ih since before hnext (fun o ho => hsince o (List.mem_cons_of_mem _ ho)) hbefore
          have hown : ¬ ∃ p ∈ (((top :: since ++ before).head?).map fun o => (o, place)).toList,
              p.1 < bound := by
            simp [htop]
          simp only [hown, false_or]
          rw [List.cons_append, List.tail_cons, hstep, List.length_cons, Nat.add_lt_add_iff_right]
        | nil =>
          cases before with
          | nil =>
            have hstep := ih [] [] hnext (by simp) (by simp)
            simpa using hstep
          | cons top before =>
            have htop : top < bound := hbefore top List.mem_cons_self
            simp [htop]
      · have hstep := ih since before hnext hsince hbefore
        simp only [closed?, stackAfter, closes, if_neg hopening, if_neg hclosing,
          Option.toList_none, List.not_mem_nil, false_and, exists_false, false_or]
        exact hstep

/-- **A place lies inside a matched pair** exactly if a bracket is open on its left and a bracket
gets closed on its right. -/
lemma exists_pair_iff (s t : Text) :
    (∃ p ∈ b.pairs (s ++ t), p.1 < s.length ∧ s.length ≤ p.2) ↔
      b.encloses (b.depth s) t = true := by
  have hbefore : ∀ o ∈ b.stackFrom 0 [] s, o < s.length := by
    intro o ho
    simpa using b.lt_of_mem_stackFrom (by simp) ho
  have hopen : b.stackFrom 0 [] s ≠ [] ↔ 0 < b.depth s := by
    rw [← List.length_pos_iff, length_stackFrom]
    rfl
  have hmatch := b.exists_pairsFrom_iff t [] (b.stackFrom 0 [] s) (Nat.le_refl s.length) (by simp)
    hbefore
  have hiff : (∃ p ∈ b.pairs (s ++ t), p.1 < s.length ∧ s.length ≤ p.2) ↔
      ∃ p ∈ b.pairsFrom s.length (b.stackFrom 0 [] s) t, p.1 < s.length := by
    rw [pairs, pairsFrom_append, Nat.zero_add]
    constructor
    · rintro ⟨p, hp, hfst, hsnd⟩
      rcases List.mem_append.mp hp with hp | hp
      · have hlt := (b.snd_of_mem_pairsFrom hp).2
        omega
      · exact ⟨p, hp, hfst⟩
    · rintro ⟨p, hp, hfst⟩
      exact ⟨p, List.mem_append_right _ hp, hfst, (b.snd_of_mem_pairsFrom hp).1⟩
  rw [hiff]
  simpa [encloses, hopen] using hmatch

end RuleSheet.Bracket
