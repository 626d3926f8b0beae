import RuleSheet.Proofs.Guard.Calls

/-!
# The skeleton of a condition

An operand of a condition may be any text: it may close brackets that nobody opened, and the last
one may leave a literal open.  A call puts a bracket around its arguments, so the depth that a scan
counts inside of them is not the one that it counted before.  The two depths stay close, because a
bracket that closes nothing counts for nothing in both scans: the second is never behind the first,
and at most one ahead.  So a call brings no logical operator to the top level, and it ends where its
comparison ended.

## Main definitions

* `RuleSheet.Guard.Shifted` — a cursor, and one with at most one more bracket open around it.
* `RuleSheet.Guard.Quiet` — names of helpers that no scan minds.

## Main results

* `RuleSheet.Guard.Shifted.step`, `Shifted.after` — the distance between two scans of the same text.
* `RuleSheet.Guard.exists_arguments` — the arguments of a call, as a scan sees them.
* `RuleSheet.Guard.pieced_replaced` — replaced operands are split in the same way.
-/

set_option autoImplicit false

namespace RuleSheet

/-- A bare text does not end with characters of the class. -/
lemma Text.Bare.eq_nil_of_append {p : Char → Bool} {t u : Text} (h : Bare p (t ++ u))
    (hu : ∀ c ∈ u, p c = true) : u = [] := by
  rcases List.eq_nil_or_concat' u with rfl | ⟨u, d, rfl⟩
  · rfl
  · obtain ⟨front, c, heq, hc⟩ := h.last
    rw [← List.append_assoc] at heq
    obtain ⟨-, hlast⟩ := List.append_inj' heq rfl
    obtain rfl : d = c := (List.cons.inj hlast).1
    rw [hu d (by simp)] at hc
    cases hc

namespace Guard

open Text Cursor

/-! ### Two scans of the same text -/

/-- A cursor, and one that has at most one more bracket open around it. -/
structure Shifted (s s' : Cursor) : Prop where
  /-- Both are in the same literal, or in none. -/
  quoting_eq : s'.quoting = s.quoting
  /-- The second is not behind the first. -/
  le_depth : s.depth ≤ s'.depth
  /-- It is not more than one ahead. -/
  depth_le : s'.depth ≤ s.depth + 1

namespace Shifted

variable {s s' : Cursor}

lemma raise (s : Cursor) : Shifted s s.raise := ⟨rfl, Nat.le_succ _, Nat.le_refl _⟩

/-- A character keeps the distance, or makes it smaller. -/
lemma step (h : Shifted s s') (c : Char) : Shifted (s.step c) (s'.step c) := by
  obtain ⟨hquoting, hle, hge⟩ := h
  refine ⟨?_, ?_, ?_⟩
  · simp only [Cursor.step, hquoting]
  all_goals
    simp only [Cursor.step, depthAfter, hquoting]
    split_ifs <;> omega

/-- A text keeps the distance, or makes it smaller. -/
lemma after (h : Shifted s s') (t : Text) : Shifted (s.after t) (s'.after t) := by
  induction t generalizing s s' with
  | nil => exact h
  | cons c t ih => exact ih (h.step c)

/-- The first cursor is on the top level where the second is. -/
lemma eq_top (h : Shifted s top) : s = top := by
  obtain ⟨depth, quoting⟩ := s
  obtain ⟨hquoting, hle, -⟩ := h
  obtain rfl : depth = 0 := Nat.le_zero.mp hle
  obtain rfl : Quoting.outside = quoting := hquoting
  rfl

/-- One closing bracket makes up for the distance. -/
lemma step_close (h : Shifted top s') : s'.step ')' = top := by
  obtain ⟨depth, quoting⟩ := s'
  obtain ⟨hquoting, -, hle⟩ := h
  obtain rfl : quoting = Quoting.outside := hquoting
  have hdepth : depth - 1 = 0 := Nat.sub_eq_zero_of_le hle
  simpa [Cursor.step, depthAfter, Quoting.step, top] using hdepth

/-- What is not at the top level for the first scan is not there for the second. -/
lemma noSeparator (h : Shifted s s') {next : Option Char} {t : Text}
    (ht : Along NoSeparator next s t) : Along NoSeparator next s' t := by
  induction t generalizing s s' with
  | nil => trivial
  | cons c t ih =>
    refine ⟨?_, ih (h.step c) ht.2⟩
    rintro ⟨rfl, hsep⟩
    exact ht.1 ⟨h.eq_top, hsep⟩

end Shifted

/-! ### Characters that no scan minds -/

/-- Whether a split pays no attention to a character outside of literals. -/
def isQuiet (c : Char) : Bool := !isMark c && !isSeparatorChar c

/-- The names of the helpers have no quotes, no brackets and no characters of logical operators. -/
def Quiet (helpers : Helpers) : Prop :=
  ∀ name ∈ [helpers.string, helpers.numeric, helpers.date], ∀ c ∈ name, isQuiet c = true

section Quiet

variable {s : Cursor} {t : Text} {next : Option Char}

lemma after_quiet (hs : s.quoting = .outside) (ht : ∀ c ∈ t, isQuiet c = true) : s.after t = s :=
  after_of_not_isMark hs fun c hc => by simpa using (Bool.and_eq_true_iff.mp (ht c hc)).1

lemma noSeparator_quiet (ht : ∀ c ∈ t, isQuiet c = true) (next : Option Char) (s : Cursor) :
    Along NoSeparator next s t := by
  refine along_of_forall ?_ next s
  rintro c hc s n ⟨-, rfl | rfl, -⟩ <;> cases ht _ hc

/-- A character behind a text makes no logical operator if it is not part of one. -/
lemma noSeparator_next (h : Along NoSeparator next s t) {d : Char}
    (hd : isSeparatorChar d = false) : Along NoSeparator (some d) s t := by
  refine h.next ?_
  rintro s c - ⟨-, hc, heq⟩
  obtain rfl := Option.some.inj heq
  rcases hc with rfl | rfl <;> cases hd

end Quiet

/-! ### Calls -/

section Calls

variable {k : Knowledge} {body call : Text}

/-- The sides of a comparison, as a split sees them.  The left one ends on the top level, and the
right one ends where the comparison does. -/
lemma sides_of_operator? (hbare : Bare isBlank body) {left right : Text} {op : Operator}
    (hfound : operator? body = some (left, op, right)) (hleft : trim left ≠ [])
    (hright : trim right ≠ []) {next : Option Char} (hsep : Along NoSeparator next top body) :
    (Along NoSeparator (some ',') top (trim left) ∧ top.after (trim left) = top) ∧
      Along NoSeparator (some ')') top (trim right) ∧ top.after (trim right) = top.after body := by
  obtain ⟨rfl, hend⟩ := of_operatorFrom?_eq_some (s := top) hfound
  rcases forall_or_surround isBlank left with hall | ⟨s, l, u, rfl, hs, hl, hu⟩
  · exact absurd (trimBy_of_forall hall) hleft
  rcases forall_or_surround isBlank right with hall | ⟨s', r, u', rfl, hs', hr, hu'⟩
  · exact absurd (trimBy_of_forall hall) hright
  -- blanks at the end might be part of a literal that is left open, but a bare text has none there
  obtain rfl : u' = [] := by
    refine Bare.eq_nil_of_append (t := s ++ l ++ u ++ op.sign ++ (s' ++ r)) ?_ hu'
    simpa using hbare
  have htrimLeft : trim (s ++ l ++ u) = l := trimBy_surround hs hl hu
  have htrimRight : trim (s' ++ r ++ []) = r := trimBy_surround hs' hr hu'
  have hafterLeft : top.after l = top := by
    have hfront := after_eq_top_of_blank hu hend
    rwa [after_append, after_blank hs] at hfront
  have hblanks : top.after (s ++ l ++ u ++ op.sign ++ s') = top := by
    rw [after_append, after_append, hend, after_sign, after_blank hs']
  rw [htrimLeft, htrimRight]
  rw [List.append_nil, ← List.append_assoc] at hsep ⊢
  rw [along_append, hblanks] at hsep
  obtain ⟨hfront, hback⟩ := hsep
  simp only [along_append, after_blank hs] at hfront
  refine ⟨⟨noSeparator_next hfront.1.1.1.2 (by decide), hafterLeft⟩,
    noSeparator_next hback (by decide), ?_⟩
  rw [after_append, hblanks]

/-- **The arguments of a call, as a split sees them.**  They bring no logical operator to the top
level, and they end where the comparison does, or inside of one more bracket.

**Proof sketch.** The arguments are the sides of the comparison.  A scan of the call goes through
the left side with one more bracket open than the scan of the comparison, so it is at most one
bracket ahead when it comes to the right side, which the scan of the comparison enters on the top
level. -/
lemma exists_arguments (hquiet : Quiet k.helpers) (hbare : Bare isBlank body) {next : Option Char}
    (hsep : Along NoSeparator next top body) (h : call? k body = some call) :
    ∃ name arguments : Text, call = name ++ '(' :: (arguments ++ [')']) ∧
      (∀ c ∈ name, isQuiet c = true) ∧ Along NoSeparator (some ')') top.raise arguments ∧
      Shifted (top.after body) (top.raise.after arguments) := by
  have hname : ∀ {mark helper function : Text}, mark.all isQuiet = true →
      helper ∈ [k.helpers.string, k.helpers.numeric, k.helpers.date] → function.all isQuiet = true →
      ∀ c ∈ mark ++ helper ++ "." ++ function, isQuiet c = true := by
    intro mark helper function hmark hhelper hfunction c hc
    simp only [List.mem_append] at hc
    rcases hc with ((hc | hc) | hc) | hc
    · exact List.all_eq_true.mp hmark c hc
    · exact hquiet helper hhelper c hc
    · obtain rfl : c = '.' := by simpa using hc
      rfl
    · exact List.all_eq_true.mp hfunction c hc
  rw [call?_eq_bind, Option.bind_eq_some_iff] at h
  obtain ⟨⟨left, op, right⟩, hfound, hcall⟩ := h
  have hmark : op.negation.all isQuiet = true := by cases op <;> decide
  have hfunction : op.function.all isQuiet = true := by cases op <;> decide
  dsimp only at hcall
  split at hcall
  next => cases hcall
  next hsides =>
    obtain ⟨hl, hr⟩ := not_or.mp hsides
    obtain ⟨⟨hsepLeft, hendLeft⟩, hsepRight, hendRight⟩ :=
      sides_of_operator? hbare hfound hl hr hsep
    have hshift : Shifted top (top.raise.after (trim left)) := by
      have hafter := (Shifted.raise top).after (trim left)
      rwa [hendLeft] at hafter
    have hraised := (Shifted.raise top).noSeparator hsepLeft
    rw [Compared.call?] at hcall
    split at hcall
    next hempty =>
      obtain rfl := Option.some.inj hcall
      refine ⟨op.negation ++ k.helpers.string ++ "." ++ "isEmpty", trim left, by simp,
        hname hmark (by simp) (by decide), noSeparator_next hraised (by decide), ?_⟩
      -- the empty literal on the right side ends on the top level
      have hliteral : trim right = ['"', '"'] := hempty.1
      rw [← hendRight, hliteral]
      exact hshift
    next =>
      obtain ⟨helper, hhelper, rfl⟩ := Option.map_eq_some_iff.mp hcall
      have hcomma : (top.raise.after (trim left)).after ", " = top.raise.after (trim left) :=
        after_quiet hshift.quoting_eq (List.all_eq_true.mp (by decide))
      refine ⟨op.negation ++ helper ++ "." ++ op.function, trim left ++ (", " ++ trim right),
        by simp, hname hmark (helper?_mem hhelper) hfunction, ?_, ?_⟩
      · rw [along_append, along_append, hcomma]
        exact ⟨hraised, noSeparator_quiet (List.all_eq_true.mp (by decide)) _ _,
          hshift.noSeparator hsepRight⟩
      · rw [after_append, after_append, hcomma, ← hendRight]
        exact hshift.after (trim right)

/-- A call brings no logical operator to the top level. -/
lemma noSeparator_call (hquiet : Quiet k.helpers) (hbare : Bare isBlank body) {next : Option Char}
    (hsep : Along NoSeparator next top body) (h : call? k body = some call) (n : Option Char) :
    Along NoSeparator n top call := by
  obtain ⟨name, arguments, rfl, hname, harguments, -⟩ := exists_arguments hquiet hbare hsep h
  rw [along_append, after_quiet rfl hname]
  refine ⟨noSeparator_quiet hname _ _, by simp [NoSeparator], ?_⟩
  rw [step_open rfl, along_append]
  exact ⟨harguments, by simp [NoSeparator], trivial⟩

/-- A call ends on the top level if its comparison does. -/
lemma after_call (hquiet : Quiet k.helpers) (hbare : Bare isBlank body) {next : Option Char}
    (hsep : Along NoSeparator next top body) (h : call? k body = some call)
    (hend : top.after body = top) : top.after call = top := by
  obtain ⟨name, arguments, rfl, hname, -, hshift⟩ := exists_arguments hquiet hbare hsep h
  rw [hend] at hshift
  rw [after_append, after_quiet rfl hname, after_cons, step_open rfl, after_append]
  exact hshift.step_close

end Calls

/-! ### Operands -/

section Operands

variable {k : Knowledge} {operand : Text} {next : Option Char}

/-- No logical operator comes into an operand. -/
lemma noSeparator_replaceOperand (hquiet : Quiet k.helpers)
    (hoperand : Along NoSeparator next top operand) :
    Along NoSeparator next top (replaceOperand k operand).1 := by
  rcases forall_or_surround isBlank operand with hall | ⟨s, body, u, rfl, hs, hbody, hu⟩
  · rw [replaceOperand_blank k hall]
    refine noSeparator_blank (fun c hc => hall c ?_) next top
    simpa using hc
  · rw [replaceOperand_surround k hs hbody hu]
    cases hcall : call? k body with
    | none => exact hoperand
    | some call =>
      rw [along_append, along_append, after_blank hs] at hoperand
      rw [Option.getD_some, along_append, along_append, after_blank hs]
      exact ⟨⟨noSeparator_blank hs _ _, noSeparator_call hquiet hbody hoperand.1.2 hcall _⟩,
        noSeparator_blank hu _ _⟩

/-- An operand that ends on the top level does so when it has been replaced. -/
lemma after_replaceOperand (hquiet : Quiet k.helpers)
    (hoperand : Along NoSeparator next top operand) (hend : top.after operand = top) :
    top.after (replaceOperand k operand).1 = top := by
  rcases forall_or_surround isBlank operand with hall | ⟨s, body, u, rfl, hs, hbody, hu⟩
  · rw [replaceOperand_blank k hall, after_append, after_blank hall, after_blank hall]
  · rw [replaceOperand_surround k hs hbody hu]
    cases hcall : call? k body with
    | none => exact hend
    | some call =>
      rw [along_append, along_append, after_blank hs] at hoperand
      have hendBody : top.after body = top := by
        have hfront := after_eq_top_of_blank hu hend
        rwa [after_append, after_blank hs] at hfront
      rw [Option.getD_some, after_append, after_append, after_blank hs,
        after_call hquiet hbody hoperand.1.2 hcall hendBody, after_blank hu]

/-- The operands behind the first, replaced. -/
def replacedMore (k : Knowledge) (more : List (Text × Text)) : List (Text × Text) :=
  more.map fun p => (p.1, (replaceOperand k p.2).1)

/-- **Replaced operands are split in the same way.** -/
lemma pieced_replaced (hquiet : Quiet k.helpers) {first : Text} {more : List (Text × Text)}
    (h : Pieced top first more) : Pieced top (replaceOperand k first).1 (replacedMore k more) := by
  induction more generalizing first with
  | nil => exact noSeparator_replaceOperand hquiet h
  | cons p more ih =>
    obtain ⟨separator, operand⟩ := p
    obtain ⟨⟨c, hc, rfl, hfirst⟩, hend, hmore⟩ := h
    exact ⟨⟨c, hc, rfl, noSeparator_replaceOperand hquiet hfirst⟩,
      after_replaceOperand hquiet hfirst hend, ih hmore⟩

end Operands

end Guard

end RuleSheet
