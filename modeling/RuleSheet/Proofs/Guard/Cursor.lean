import Mathlib.Data.List.Basic
import RuleSheet.Guard.Scan

/-!
# Where a scan of a condition stands

The three scans of a condition keep the same account: how many brackets are open, and whether they
are inside a literal.  This module makes the account a value, the cursor, and says what a scan does
on a text in terms of the cursors along it.

## Main definitions

* `RuleSheet.Guard.Cursor` — open brackets and quoting, with `Cursor.after` for the cursor after a
  text.
* `RuleSheet.Guard.Along` — a condition on every character of a text, given the cursor before it
  and the character after it.
* `RuleSheet.Guard.KeepsOpen`, `NoOpener`, `NoSeparator`, `NoOperator` — the conditions that the
  scans look for.
* `RuleSheet.Guard.Pieced` — operands and separators as a split leaves them.

## Main results

* `RuleSheet.Guard.along_append` — a condition along two texts, one after the other.
* `RuleSheet.Guard.along_raise` — inside brackets nothing is at the top level.
* `RuleSheet.Guard.closingFrom?_append`, `of_closingFrom?_eq_some` — what the search for the
  closing bracket finds.
* `RuleSheet.Guard.splitTop_iff` — what the split leaves.
* `RuleSheet.Guard.operatorFrom?_eq_none`, `operatorFrom?_append`, `operatorFrom?_sign`,
  `of_operatorFrom?_eq_some` — what the search for an operator finds.
* `RuleSheet.Guard.markers_eq_nil` — no error marker without a comment.
* `RuleSheet.Guard.after_blank`, `after_eq_top_of_blank`, `noSeparator_blank` — what blanks are to
  the scans.
-/

set_option autoImplicit false

namespace RuleSheet.Guard

open Text

/-! ### Cursors -/

/-- The account of a scan. -/
structure Cursor where
  /-- The number of open brackets. -/
  depth : Nat
  /-- Whether the scan is inside a literal. -/
  quoting : Quoting
  deriving DecidableEq, Repr

namespace Cursor

/-- Outside of brackets and literals. -/
def top : Cursor := ⟨0, .outside⟩

/-- The cursor after one more character. -/
def step (s : Cursor) (c : Char) : Cursor := ⟨depthAfter s.quoting s.depth c, s.quoting.step c⟩

/-- The cursor after a text. -/
def after (s : Cursor) (t : Text) : Cursor := t.foldl step s

/-- The cursor with one more bracket open around it. -/
def raise (s : Cursor) : Cursor := ⟨s.depth + 1, s.quoting⟩

@[simp] lemma after_nil (s : Cursor) : s.after [] = s := rfl

@[simp] lemma after_cons (s : Cursor) (c : Char) (t : Text) :
    s.after (c :: t) = (s.step c).after t := rfl

@[simp] lemma after_append (s : Cursor) (t u : Text) : s.after (t ++ u) = (s.after t).after u :=
  List.foldl_append

lemma raise_ne_top (s : Cursor) : s.raise ≠ top := by
  intro h
  have hdepth : s.depth + 1 = 0 := congrArg depth h
  omega

end Cursor

open Cursor

/-- The characters that a cursor outside of literals minds: quotes and brackets. -/
def isMark (c : Char) : Bool := c = '"' || c = '\'' || c = '(' || c = ')'

/-- Other characters do not move a cursor outside of literals. -/
lemma step_of_not_isMark {s : Cursor} {c : Char} (hs : s.quoting = .outside)
    (hc : isMark c = false) : s.step c = s := by
  obtain ⟨depth, quoting⟩ := s
  subst hs
  simp only [isMark, Bool.or_eq_false_iff, decide_eq_false_iff_not] at hc
  obtain ⟨⟨⟨hdouble, hsingle⟩, hopen⟩, hclose⟩ := hc
  simp [step, depthAfter, Quoting.step, hdouble, hsingle, hopen, hclose]

/-- Nor does a text of such characters. -/
lemma after_of_not_isMark {s : Cursor} {t : Text} (hs : s.quoting = .outside)
    (ht : ∀ c ∈ t, isMark c = false) : s.after t = s := by
  induction t with
  | nil => rfl
  | cons c t ih =>
    rw [after_cons, step_of_not_isMark hs (ht c List.mem_cons_self)]
    exact ih fun d hd => ht d (List.mem_cons_of_mem _ hd)

/-- An opening bracket is one more around what follows. -/
lemma step_open {s : Cursor} (hs : s.quoting = .outside) : s.step '(' = s.raise := by
  obtain ⟨depth, quoting⟩ := s
  subst hs
  rfl

/-- A closing bracket ends what the opening one started. -/
lemma raise_step_close {s : Cursor} (hs : s.quoting = .outside) : s.raise.step ')' = s := by
  obtain ⟨depth, quoting⟩ := s
  subst hs
  rfl

/-- The quote of a literal that is open is a mark. -/
def Proper (s : Cursor) : Prop :=
  ∀ quote escaped, s.quoting = .inside quote escaped → isMark quote = true

lemma Proper.step {s : Cursor} (h : Proper s) (c : Char) : Proper (s.step c) := by
  obtain ⟨depth, quoting⟩ := s
  intro quote escaped hstep
  cases quoting with
  | outside =>
    by_cases hc : c = '"' ∨ c = '\''
    · have hquote : c = quote := by simp_all [Cursor.step, Quoting.step]
      rw [← hquote]
      rcases hc with rfl | rfl <;> rfl
    · simp [Cursor.step, Quoting.step, not_or.mp hc] at hstep
  | inside quote' escaped' =>
    have hsame : quote' = quote := by
      cases escaped' with
      | true => simp_all [Cursor.step, Quoting.step]
      | false =>
        by_cases hescape : c = '\\'
        · simp_all [Cursor.step, Quoting.step]
        · by_cases hc : c = quote' <;> simp_all [Cursor.step, Quoting.step]
    rw [← hsame]
    exact h quote' escaped' rfl

lemma proper_after {s : Cursor} (h : Proper s) (t : Text) : Proper (s.after t) := by
  induction t generalizing s with
  | nil => exact h
  | cons c t ih => exact ih (h.step c)

/-- Other characters than quotes and brackets do not lead back to the top level. -/
lemma eq_top_of_step {s : Cursor} {c : Char} (hs : Proper s) (hc : isMark c = false)
    (h : s.step c = top) : s = top := by
  cases hq : s.quoting with
  | outside => rwa [step_of_not_isMark hq hc] at h
  | inside quote escaped =>
    have hquote : c ≠ quote := by
      rintro rfl
      rw [hs c escaped hq] at hc
      cases hc
    have hstep : s.quoting.step c = .outside := congrArg Cursor.quoting h
    rw [hq] at hstep
    cases escaped with
    | true => simp [Quoting.step] at hstep
    | false => by_cases hescape : c = '\\' <;> simp [Quoting.step, hescape, hquote] at hstep

/-- Nor does a text of such characters. -/
lemma eq_top_of_after {s : Cursor} {t : Text} (hs : Proper s) (ht : ∀ c ∈ t, isMark c = false)
    (h : s.after t = top) : s = top := by
  induction t generalizing s with
  | nil => exact h
  | cons c t ih =>
    have hstep : s.step c = top :=
      ih (hs.step c) (fun d hd => ht d (List.mem_cons_of_mem _ hd)) h
    exact eq_top_of_step hs (ht c List.mem_cons_self) hstep

/-! ### Conditions along a text -/

section Along

variable {P : Cursor → Char → Option Char → Prop}

/-- A condition on every character of a text, given the cursor before it and the character after
it; `next` follows the text. -/
def Along (P : Cursor → Char → Option Char → Prop) (next : Option Char) : Cursor → Text → Prop
  | _, [] => True
  | s, c :: t => P s c (t.head?.or next) ∧ Along P next (s.step c) t

/-- A condition along two texts, one after the other. -/
lemma along_append (next : Option Char) (s : Cursor) (t u : Text) :
    Along P next s (t ++ u) ↔ Along P (u.head?.or next) s t ∧ Along P next (s.after t) u := by
  induction t generalizing s with
  | nil => simp [Along]
  | cons c t ih =>
    rw [List.cons_append, Along, Along, ih, List.head?_append, Option.or_assoc, after_cons,
      and_assoc]

/-- A condition that every character of the text satisfies wherever it stands. -/
lemma along_of_forall {t : Text} (h : ∀ c ∈ t, ∀ s n, P s c n) (next : Option Char) (s : Cursor) :
    Along P next s t := by
  induction t generalizing s with
  | nil => trivial
  | cons c t ih =>
    exact ⟨h c List.mem_cons_self s _, ih (fun d hd => h d (List.mem_cons_of_mem _ hd)) _⟩

/-- What follows the text matters only to its last character. -/
lemma Along.next {n n' : Option Char} (h : ∀ s c, P s c n → P s c n') {s : Cursor} {t : Text}
    (ht : Along P n s t) : Along P n' s t := by
  induction t generalizing s with
  | nil => trivial
  | cons c t ih =>
    refine ⟨?_, ih ht.2⟩
    cases t with
    | nil => exact h s c ht.1
    | cons d t => exact ht.1

/-- A condition that does not look at the cursor. -/
lemma Along.cursor (h : ∀ s s' c n, P s c n → P s' c n) {next : Option Char} {s : Cursor} {t : Text}
    (ht : Along P next s t) (s' : Cursor) : Along P next s' t := by
  induction t generalizing s s' with
  | nil => trivial
  | cons c t ih => exact ⟨h s s' c _ ht.1, ih ht.2 _⟩

end Along

/-- No bracket is closed that was open before the text. -/
def KeepsOpen (s : Cursor) (c : Char) (_ : Option Char) : Prop := ¬ (s = top ∧ c = ')')

/-- No comment starts. -/
def NoOpener (_ : Cursor) (c : Char) (next : Option Char) : Prop := ¬ (c = '/' ∧ next = some '*')

/-- No logical operator stands on the top level. -/
def NoSeparator (s : Cursor) (c : Char) (next : Option Char) : Prop :=
  ¬ (s = top ∧ (c = '&' ∨ c = '|') ∧ next = some c)

/-- No comparison operator stands on the top level, but the mark of a negation may. -/
def NoOperator (s : Cursor) (c : Char) (next : Option Char) : Prop :=
  s = top → isOperatorChar c = true → c = '!' ∧ next ≠ some '='

/-- Which brackets are open does not depend on what follows. -/
lemma keepsOpen_next {n : Option Char} {s : Cursor} {t : Text} (h : Along KeepsOpen n s t)
    (n' : Option Char) : Along KeepsOpen n' s t :=
  h.next fun s c (hc : KeepsOpen s c n) => show KeepsOpen s c n' from hc

/-- One more bracket around a character that closes none of them. -/
lemma step_raise {s : Cursor} {c : Char} (h : ¬ (s = top ∧ c = ')')) :
    s.raise.step c = (s.step c).raise := by
  obtain ⟨depth, quoting⟩ := s
  cases quoting with
  | inside quote escaped => simp [raise, step, depthAfter]
  | outside =>
    by_cases hclose : c = ')'
    · have hdepth : depth ≠ 0 := fun h0 => h ⟨by rw [h0, top], hclose⟩
      simp only [raise, step, depthAfter, hclose, Cursor.mk.injEq, ne_eq, not_true_eq_false,
        if_false, and_true]
      simp only [Char.reduceEq, if_false, if_true]
      omega
    · by_cases hopen : c = '(' <;> simp [raise, step, depthAfter, hclose, hopen]

/-- One more bracket around a text that keeps it open. -/
lemma after_raise {next : Option Char} {s : Cursor} {t : Text} (h : Along KeepsOpen next s t) :
    s.raise.after t = (s.after t).raise := by
  induction t generalizing s with
  | nil => rfl
  | cons c t ih => rw [after_cons, after_cons, step_raise h.1, ih h.2]

/-- Inside brackets nothing is at the top level. -/
lemma along_raise {P : Cursor → Char → Option Char → Prop} (hP : ∀ s c n, s ≠ top → P s c n)
    {next : Option Char} {s : Cursor} {t : Text} (h : Along KeepsOpen next s t) (n : Option Char) :
    Along P n s.raise t := by
  induction t generalizing s with
  | nil => trivial
  | cons c t ih =>
    refine ⟨hP _ c _ s.raise_ne_top, ?_⟩
    rw [step_raise h.1]
    exact ih h.2

/-! ### The closing bracket -/

lemma startsWith_singleton (m : Char) (t : Text) :
    startsWith [m] t = true ↔ t.head? = some m := by
  cases t with
  | nil => simp [startsWith, after?]
  | cons c t =>
    by_cases h : m = c
    · simp [startsWith, after?, h]
    · simp [startsWith, after?, h, Ne.symm h]

/-- Where no comment starts, the search for the closing bracket stays in code. -/
lemma place_step {rest : Text} {q : Quoting} {c : Char}
    (h : ¬ (q = .outside ∧ c = '/' ∧ rest.head? = some '*')) :
    Place.step rest (.code q) c = .code (q.step c) := by
  cases q with
  | inside quote escaped => rfl
  | outside =>
    have hstar : ¬ (c = '/' ∧ startsWith "*" rest = true) := by
      rintro ⟨hc, hstart⟩
      exact h ⟨rfl, hc, (startsWith_singleton '*' rest).mp hstart⟩
    exact if_neg hstar

/-- One character of the search for the closing bracket, if it is not that bracket and no comment
starts with it. -/
lemma closingFrom?_cons {s : Cursor} {c : Char} {t : Text} (hopen : ¬ (s = top ∧ c = ')'))
    (hcomment : ¬ (s.quoting = .outside ∧ c = '/' ∧ t.head? = some '*')) :
    closingFrom? s.depth (.code s.quoting) (c :: t) =
      (closingFrom? (s.step c).depth (.code (s.step c).quoting) t).map fun (inside, rest) =>
        (c :: inside, rest) := by
  have hstop : ¬ (Place.code s.quoting = .code .outside ∧ c = ')' ∧ s.depth = 0) := by
    rintro ⟨hq, hc, hd⟩
    exact hopen ⟨by cases s; simp_all [top], hc⟩
  have hdepth : (if Place.code s.quoting = .code .outside then depthAfter .outside s.depth c
      else s.depth) = (s.step c).depth := by
    cases hq : s.quoting <;> simp [step, depthAfter, hq]
  rw [closingFrom?, if_neg hstop, hdepth, place_step hcomment]
  rfl

/-- **The closing bracket behind a text.**  Behind a text that closes what it opens, and nothing
else, the search finds the bracket. -/
lemma closingFrom?_append {s : Cursor} {t : Text} (hopen : Along KeepsOpen none s t)
    (hcomment : Along NoOpener none s t) (hend : s.after t = top) (rest : Text) :
    closingFrom? s.depth (.code s.quoting) (t ++ ')' :: rest) = some (t, rest) := by
  induction t generalizing s with
  | nil =>
    obtain rfl : s = top := hend
    simp [closingFrom?, top]
  | cons c t ih =>
    have hnext : ¬ (s.quoting = .outside ∧ c = '/' ∧ (t ++ ')' :: rest).head? = some '*') := by
      rintro ⟨-, hc, hhead⟩
      cases t with
      | nil => simp at hhead
      | cons d t => exact hcomment.1 ⟨hc, by simpa using hhead⟩
    rw [List.cons_append, closingFrom?_cons hopen.1 hnext, ih hopen.2 hcomment.2 hend]
    rfl

/-- A comment belongs to what is found before the bracket. -/
lemma closingFrom?_commentStart {depth : Nat} {t inside rest : Text}
    (h : closingFrom? depth .commentStart t = some (inside, rest)) : inside.head? = t.head? := by
  cases t with
  | nil => simp [closingFrom?] at h
  | cons c t =>
    simp only [closingFrom?, reduceCtorEq, false_and, if_false, Option.map_eq_some_iff] at h
    obtain ⟨found, -, heq⟩ := h
    rw [← (Prod.mk.inj heq).1]
    rfl

/-- What the search finds closes what it opens, and nothing else, unless there is a comment. -/
lemma of_closingFrom?_eq_some {s : Cursor} {t inside rest : Text}
    (h : closingFrom? s.depth (.code s.quoting) t = some (inside, rest))
    (hcomment : Along NoOpener none s inside) :
    t = inside ++ ')' :: rest ∧ Along KeepsOpen none s inside ∧ s.after inside = top := by
  induction t generalizing s inside with
  | nil => simp [closingFrom?] at h
  | cons c t ih =>
    by_cases hclose : s = top ∧ c = ')'
    · obtain ⟨rfl, rfl⟩ := hclose
      simp only [closingFrom?, top, and_self, if_true, Option.some.injEq, Prod.mk.injEq] at h
      obtain ⟨rfl, rfl⟩ := h
      exact ⟨rfl, trivial, rfl⟩
    · by_cases hopener : s.quoting = .outside ∧ c = '/' ∧ t.head? = some '*'
      · -- then the comment would be part of what is found
        obtain ⟨hq, rfl, hhead⟩ := hopener
        have hstart : Place.step t (.code s.quoting) '/' = .commentStart := by
          rw [hq]
          exact if_pos ⟨rfl, (startsWith_singleton '*' t).mpr hhead⟩
        rw [closingFrom?, if_neg (by simp), hstart] at h
        simp only [Option.map_eq_some_iff] at h
        obtain ⟨⟨found, after⟩, hfound, heq⟩ := h
        obtain ⟨rfl, -⟩ := Prod.mk.inj heq
        have hsame := closingFrom?_commentStart hfound
        exact absurd ⟨rfl, by rw [hsame, hhead]; rfl⟩ hcomment.1
      · rw [closingFrom?_cons hclose hopener, Option.map_eq_some_iff] at h
        obtain ⟨⟨found, after⟩, hfound, heq⟩ := h
        obtain ⟨rfl, rfl⟩ := Prod.mk.inj heq
        obtain ⟨ht, hopen, hend⟩ := ih hfound hcomment.2
        exact ⟨by rw [ht]; rfl, ⟨hclose, hopen⟩, hend⟩

/-! ### Operands and separators -/

/-- The characters that logical operators are made of. -/
def isSeparatorChar (c : Char) : Bool := c = '&' || c = '|'

/-- One character of the split, if no logical operator starts with it. -/
lemma splitFrom_cons {s : Cursor} {c : Char} {t : Text}
    (h : ¬ (s = top ∧ (c = '&' ∨ c = '|') ∧ t.head? = some c)) :
    splitFrom s.depth s.quoting (c :: t) =
      (c :: (splitFrom (s.step c).depth (s.step c).quoting t).1,
        (splitFrom (s.step c).depth (s.step c).quoting t).2) := by
  cases t with
  | nil => rfl
  | cons d t =>
    have hnot : ¬ (s.quoting = .outside ∧ s.depth = 0 ∧ (c = '&' ∨ c = '|') ∧ d = c) := by
      rintro ⟨hq, hd, hc, rfl⟩
      exact h ⟨by cases s; simp_all [top], hc, rfl⟩
    rw [splitFrom, if_neg hnot]
    rfl

/-- A split passes over a text without logical operators on the top level. -/
lemma splitFrom_append {s : Cursor} {t u : Text} (h : Along NoSeparator u.head? s t) :
    splitFrom s.depth s.quoting (t ++ u) =
      (t ++ (splitFrom (s.after t).depth (s.after t).quoting u).1,
        (splitFrom (s.after t).depth (s.after t).quoting u).2) := by
  induction t generalizing s with
  | nil => rfl
  | cons c t ih =>
    have hnext : ¬ (s = top ∧ (c = '&' ∨ c = '|') ∧ (t ++ u).head? = some c) := by
      rw [List.head?_append]
      exact h.1
    rw [List.cons_append, splitFrom_cons hnext, ih h.2]
    rfl

/-- A split cuts at a logical operator of the top level. -/
lemma splitFrom_separator {c : Char} (h : isSeparatorChar c = true) (t : Text) :
    splitFrom top.depth top.quoting (c :: c :: t) =
      ([], ([c, c], (splitFrom top.depth top.quoting t).1) ::
        (splitFrom top.depth top.quoting t).2) := by
  have hc : c = '&' ∨ c = '|' := by simpa [isSeparatorChar] using h
  exact if_pos ⟨rfl, rfl, hc, rfl⟩

/-- Operands with the logical operators between them. -/
def joined (first : Text) (more : List (Text × Text)) : Text :=
  first ++ more.flatMap fun (separator, operand) => separator ++ operand

/-- Operands and separators as a split leaves them: no logical operator is left in an operand, and
every operand but the last ends on the top level. -/
def Pieced : Cursor → Text → List (Text × Text) → Prop
  | s, first, [] => Along NoSeparator none s first
  | s, first, (separator, operand) :: more =>
    (∃ c, isSeparatorChar c = true ∧ separator = [c, c] ∧ Along NoSeparator (some c) s first) ∧
      s.after first = top ∧ Pieced top operand more

/-- A split finds the operands that were joined. -/
lemma splitFrom_joined {s : Cursor} {first : Text} {more : List (Text × Text)}
    (h : Pieced s first more) :
    splitFrom s.depth s.quoting (joined first more) = (first, more) := by
  induction more generalizing s first with
  | nil =>
    have hsplit := splitFrom_append (u := []) h
    simpa [joined, splitFrom] using hsplit
  | cons piece more ih =>
    obtain ⟨separator, operand⟩ := piece
    obtain ⟨⟨c, hc, rfl, hfirst⟩, hend, hmore⟩ := h
    have hjoined : joined first (([c, c], operand) :: more) =
        first ++ c :: c :: joined operand more := by
      simp [joined]
    rw [hjoined, splitFrom_append (u := c :: c :: joined operand more) hfirst, hend,
      splitFrom_separator hc, ih hmore]
    simp

/-- One more character in front of the first operand. -/
lemma Pieced.cons {s : Cursor} {c : Char} {first : Text} {more : List (Text × Text)}
    (h : Pieced (s.step c) first more) (hc : NoSeparator s c (joined first more).head?) :
    Pieced s (c :: first) more := by
  cases more with
  | nil =>
    refine ⟨?_, h⟩
    simpa [joined] using hc
  | cons piece more =>
    obtain ⟨separator, operand⟩ := piece
    obtain ⟨⟨d, hd, rfl, hfirst⟩, hend, hmore⟩ := h
    refine ⟨⟨d, hd, rfl, ?_, hfirst⟩, hend, hmore⟩
    simpa [joined, List.head?_append] using hc

/-- What a split leaves joins to the text, and no more can be split.

**Proof sketch.** Induction on the length of the text.  Either a logical operator stands at the
front, and the rest is split from the top level; or the first character belongs to the first
operand. -/
lemma pieced_splitFrom (n : Nat) : ∀ (s : Cursor) (t : Text), t.length ≤ n →
    Pieced s (splitFrom s.depth s.quoting t).1 (splitFrom s.depth s.quoting t).2 ∧
      joined (splitFrom s.depth s.quoting t).1 (splitFrom s.depth s.quoting t).2 = t := by
  induction n with
  | zero =>
    intro s t ht
    obtain rfl : t = [] := List.length_eq_zero_iff.mp (by omega)
    exact ⟨trivial, rfl⟩
  | succ n ih =>
    intro s t ht
    cases t with
    | nil => exact ⟨trivial, rfl⟩
    | cons c t =>
      by_cases hsep : s = top ∧ (c = '&' ∨ c = '|') ∧ t.head? = some c
      · obtain ⟨rfl, hc, hhead⟩ := hsep
        obtain ⟨rest, rfl⟩ := List.head?_eq_some_iff.mp hhead
        have hchar : isSeparatorChar c = true := by simpa [isSeparatorChar] using hc
        obtain ⟨hpieced, hjoined⟩ := ih top rest (by simp at ht; omega)
        rw [splitFrom_separator hchar]
        refine ⟨⟨⟨c, hchar, rfl, trivial⟩, rfl, hpieced⟩, ?_⟩
        simpa [joined] using hjoined
      · obtain ⟨hpieced, hjoined⟩ := ih (s.step c) t (by simp at ht; omega)
        rw [splitFrom_cons hsep]
        refine ⟨hpieced.cons ?_, ?_⟩
        · rw [hjoined]
          exact hsep
        · exact congrArg (c :: ·) hjoined

/-- **What a split leaves** is the one way to cut the text into operands and separators. -/
lemma splitTop_iff (t first : Text) (more : List (Text × Text)) :
    splitTop t = (first, more) ↔ Pieced top first more ∧ joined first more = t := by
  constructor
  · intro h
    have hpieced := pieced_splitFrom t.length top t (Nat.le_refl _)
    have hsplit : splitFrom top.depth top.quoting t = (first, more) := h
    rwa [hsplit] at hpieced
  · rintro ⟨hpieced, rfl⟩
    exact splitFrom_joined hpieced

/-! ### Comparison operators -/

/-- Apart from the mark of a negation, an operator starts with one of its characters. -/
lemma cleanOperator?_eq_none {c : Char} {t : Text}
    (h : isOperatorChar c = true → c = '!' ∧ t.head? ≠ some '=') :
    cleanOperator? (c :: t) = none := by
  have hhere : operatorHere? (c :: t) = none := by
    cases hc : isOperatorChar c with
    | true =>
      obtain ⟨rfl, hhead⟩ := h hc
      cases t with
      | nil => rfl
      | cons d t =>
        have hd : d ≠ '=' := by simpa using hhead
        simp [operatorHere?, hd]
    | false =>
      simp only [isOperatorChar, Bool.or_eq_false_iff, decide_eq_false_iff_not] at hc
      obtain ⟨⟨⟨heq, hnot⟩, hless⟩, hgreater⟩ := hc
      simp [operatorHere?, heq, hnot, hless, hgreater]
  rw [cleanOperator?, hhere]

/-- One character of the search for an operator, if none starts with it. -/
lemma operatorFrom?_cons {s : Cursor} {c : Char} {t : Text} (before : Option Char)
    (h : s = top → cleanOperator? (c :: t) = none) :
    operatorFrom? before s.depth s.quoting (c :: t) =
      (operatorFrom? (some c) (s.step c).depth (s.step c).quoting t).map fun (left, op, right) =>
        (c :: left, op, right) := by
  have hhere : (if s.quoting = .outside ∧ s.depth = 0 ∧ !(before.any isOperatorChar) then
      cleanOperator? (c :: t) else none) = none := by
    split
    next hs => exact h (by cases s; simp_all [top])
    next => rfl
  rw [operatorFrom?, hhere]
  rfl

/-- No operator is found where none stands on the top level. -/
lemma operatorFrom?_eq_none {s : Cursor} {t : Text} (h : Along NoOperator none s t)
    (before : Option Char) : operatorFrom? before s.depth s.quoting t = none := by
  induction t generalizing s before with
  | nil => rfl
  | cons c t ih =>
    have hhere : s = top → cleanOperator? (c :: t) = none := by
      intro hs
      refine cleanOperator?_eq_none fun hc => ?_
      simpa using h.1 hs hc
    rw [operatorFrom?_cons before hhere, ih h.2]
    rfl

/-- The search passes over a text without operators on the top level. -/
lemma operatorFrom?_append {s : Cursor} {t u : Text}
    (h : Along (fun s c _ => s = top → isOperatorChar c = false) none s t) (before : Option Char) :
    operatorFrom? before s.depth s.quoting (t ++ u) =
      (operatorFrom? (t.getLast?.or before) (s.after t).depth (s.after t).quoting u).map
        fun (left, op, right) => (t ++ left, op, right) := by
  induction t generalizing s before with
  | nil => simp
  | cons c t ih =>
    have hhere : s = top → cleanOperator? (c :: (t ++ u)) = none := by
      intro hs
      refine cleanOperator?_eq_none fun hc => ?_
      rw [h.1 hs] at hc
      cases hc
    have hlast : (c :: t).getLast?.or before = t.getLast?.or (some c) := by
      cases t <;> simp [List.getLast?_cons]
    rw [List.cons_append, operatorFrom?_cons before hhere, ih h.2, hlast, Option.map_map]
    rfl

/-- An operator that is followed by no equals sign is read from the front. -/
lemma cleanOperator?_sign (op : Operator) {t : Text} (ht : t.head? ≠ some '=') :
    cleanOperator? (op.sign ++ t) = some (op, t) := by
  have hhere : operatorHere? (op.sign ++ t) = some (op, t) := by
    cases op with
    | eq | ne | ge | le => rfl
    | gt | lt =>
      cases t with
      | nil => rfl
      | cons c t =>
        have hc : c ≠ '=' := by simpa using ht
        simp [Operator.sign, operatorHere?, hc]
  have hclean : ¬ startsWith "=" t = true := fun h => ht ((startsWith_singleton '=' t).mp h)
  rw [cleanOperator?, hhere]
  exact if_neg hclean

/-- An operator that is read from the front is a sign there. -/
lemma of_cleanOperator?_eq_some {t right : Text} {op : Operator}
    (h : cleanOperator? t = some (op, right)) : t = op.sign ++ right := by
  unfold cleanOperator? at h
  split at h
  next op' rest hhere =>
    split at h
    next => cases h
    next =>
      obtain ⟨rfl, rfl⟩ := Prod.mk.inj (Option.some.inj h)
      unfold operatorHere? at hhere
      split at hhere <;> cases hhere <;> rfl
  next => cases h

/-- An operator that is followed by no equals sign is found where it stands. -/
lemma operatorFrom?_sign {before : Option Char} (hbefore : before.any isOperatorChar = false)
    (op : Operator) {t : Text} (ht : t.head? ≠ some '=') :
    operatorFrom? before top.depth top.quoting (op.sign ++ t) = some ([], op, t) := by
  obtain ⟨c, u, hsign⟩ : ∃ c u, op.sign ++ t = c :: u := by cases op <;> exact ⟨_, _, rfl⟩
  have hclean := cleanOperator?_sign op ht
  rw [hsign] at hclean ⊢
  rw [operatorFrom?, if_pos ⟨rfl, rfl, by simp [hbefore]⟩, hclean]

/-- What the search finds, and where. -/
lemma of_operatorFrom?_eq_some {s : Cursor} {before : Option Char} {t left right : Text}
    {op : Operator} (h : operatorFrom? before s.depth s.quoting t = some (left, op, right)) :
    t = left ++ op.sign ++ right ∧ s.after left = top := by
  induction t generalizing s before left with
  | nil => simp [operatorFrom?] at h
  | cons c t ih =>
    rw [operatorFrom?] at h
    dsimp only at h
    split at h
    next op' right' hhere =>
      obtain ⟨rfl, rfl, rfl⟩ : left = [] ∧ op = op' ∧ right = right' := by
        simpa [eq_comm] using h
      split at hhere
      next hs =>
        refine ⟨of_cleanOperator?_eq_some hhere, ?_⟩
        cases s
        simp_all [top]
      next => cases hhere
    next =>
      rw [Option.map_eq_some_iff] at h
      obtain ⟨⟨left', op', right'⟩, hfound, heq⟩ := h
      obtain ⟨rfl, rfl, rfl⟩ : c :: left' = left ∧ op' = op ∧ right' = right := by simpa using heq
      obtain ⟨rfl, hend⟩ := ih (s := s.step c) hfound
      exact ⟨rfl, hend⟩

/-- The signs are made of the characters of operators. -/
lemma isOperatorChar_of_mem_sign {op : Operator} {c : Char} (h : c ∈ op.sign) :
    isOperatorChar c = true := by
  cases op <;> simp [Operator.sign] at h <;> rcases h with rfl | rfl <;> rfl

/-- An operator does not move the cursor. -/
lemma after_sign (op : Operator) : top.after op.sign = top := by
  cases op <;> decide

/-! ### Comments and error markers -/

/-- Where the characters that open a comment do not stand next to each other, none starts. -/
lemma along_noOpener {t : Text} (h : ¬ ['/', '*'] <:+: t) (s : Cursor) :
    Along NoOpener none s t := by
  induction t generalizing s with
  | nil => trivial
  | cons c t ih =>
    refine ⟨?_, ih (fun hin => h (hin.trans (List.suffix_cons c t).isInfix)) _⟩
    rintro ⟨rfl, hhead⟩
    rw [Option.or_none] at hhead
    obtain ⟨rest, rfl⟩ := List.head?_eq_some_iff.mp hhead
    exact h ⟨[], rest, rfl⟩

/-- A marker is a comment. -/
lemma markerHere?_eq_none {c : Char} {t : Text} (h : ¬ (c = '/' ∧ t.head? = some '*')) :
    markerHere? (c :: t) = none := by
  have hafter : after? "/*ERROR: " (c :: t) = none := by
    show after? ('/' :: '*' :: "ERROR: ".toList) (c :: t) = none
    cases t with
    | nil => by_cases hc : '/' = c <;> simp [after?, hc]
    | cons d t =>
      by_cases hc : '/' = c
      · have hd : '*' ≠ d := fun hd => h ⟨hc.symm, by rw [hd]; rfl⟩
        rw [after?, if_pos hc, after?, if_neg hd]
      · rw [after?, if_neg hc]
  rw [markerHere?, hafter]
  rfl

/-- Without comments there are no error markers. -/
lemma markers_eq_nil {s : Cursor} {t : Text} (h : Along NoOpener none s t) : markers t = [] := by
  have hfrom : markersFrom 0 t = [] := by
    induction t generalizing s with
    | nil => rfl
    | cons c t ih =>
      have hhere : markerHere? (c :: t) = none := by
        refine markerHere?_eq_none ?_
        simpa [NoOpener] using h.1
      rw [markersFrom, hhere]
      exact ih h.2
  exact hfrom

/-! ### Blanks -/

/-- The characters that the scans look for. -/
def special : List Char := ['"', '\'', '(', ')', '=', '!', '<', '>', '&', '|', '/']

/-- Other characters are no quotes, no brackets and no slashes. -/
lemma not_isMark_of_not_special {c : Char} (h : c ∉ special) : isMark c = false ∧ c ≠ '/' := by
  simp only [special, List.mem_cons, List.not_mem_nil, or_false, not_or] at h
  simp [isMark, h]

/-- A class without special characters. -/
lemma not_special_of_any {p : Char → Bool} (hp : special.any p = false) {c : Char}
    (h : p c = true) : c ∉ special := by
  intro hc
  have hany : special.any p = true := List.any_eq_true.mpr ⟨c, hc, h⟩
  rw [hp] at hany
  cases hany

/-- Blanks are not special. -/
lemma not_special_of_isBlank {c : Char} (h : isBlank c = true) : c ∉ special :=
  not_special_of_any (by decide) h

/-- Blanks do not move the cursor. -/
lemma after_blank {t : Text} (ht : ∀ c ∈ t, isBlank c = true) : top.after t = top :=
  after_of_not_isMark rfl fun c hc =>
    (not_isMark_of_not_special (not_special_of_isBlank (ht c hc))).1

/-- Blanks at its end do not bring a text back to the top level. -/
lemma after_eq_top_of_blank {t u : Text} (hu : ∀ c ∈ u, isBlank c = true)
    (h : top.after (t ++ u) = top) : top.after t = top := by
  have hproper : Proper (top.after t) := proper_after (fun _ _ h => by cases h) t
  have hmarks : ∀ c ∈ u, isMark c = false := fun c hc =>
    (not_isMark_of_not_special (not_special_of_isBlank (hu c hc))).1
  exact eq_top_of_after hproper hmarks (by rw [← after_append, h])

/-- Blanks are no logical operator. -/
lemma noSeparator_blank {t : Text} (ht : ∀ c ∈ t, isBlank c = true) (next : Option Char)
    (s : Cursor) : Along NoSeparator next s t := by
  refine along_of_forall ?_ next s
  rintro c hc s n ⟨-, rfl | rfl, -⟩
  · exact not_special_of_isBlank (ht _ hc) (by decide)
  · exact not_special_of_isBlank (ht _ hc) (by decide)

end RuleSheet.Guard
