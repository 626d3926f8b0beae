import RuleSheet.Proofs.Guard.Skeleton
import RuleSheet.Proofs.Text.Word

/-!
# Processing twice

Processing is meant to find nothing to do in its own output.  A call closes what it opens, and its
arguments stand in brackets, so the second run splits the condition at the same places and meets no
comparison.  There is one exception: an operand of blanks is written twice, by every run.

## Main definitions

* `RuleSheet.Guard.Whole` — a text that closes what it opens, and nothing else.
* `RuleSheet.Guard.IsCall` — the form of the calls that replace comparisons.
* `RuleSheet.Guard.condition?`, `operands` — the condition of a unit, and its operands.

## Main results

* `RuleSheet.Guard.isCall_of_call?` — comparisons are replaced by calls.
* `RuleSheet.Guard.replaceOperand_replaced` — an operand that has been replaced.
* `RuleSheet.Guard.replaceComparisons_replaced` — a condition that has been replaced.
* `RuleSheet.Guard.process_process` — a unit that has been processed.
-/

set_option autoImplicit false

namespace RuleSheet.Guard

open Text Cursor

/-! ### Whole texts -/

/-- A text that closes the literals and brackets that it opens, closes no others, and opens no
comment. -/
structure Whole (t : Text) : Prop where
  /-- No bracket is closed that was open before. -/
  keepsOpen : Along KeepsOpen none top t
  /-- Everything is closed at the end. -/
  after_eq : top.after t = top
  /-- No comment is opened. -/
  noOpener : Along NoOpener none top t

/-- The boundary between two texts opens no comment unless their characters do. -/
lemma noOpener_next {next : Option Char} {s : Cursor} {t : Text} (h : Along NoOpener none s t)
    (hnext : ¬ (t.getLast? = some '/' ∧ next = some '*')) : Along NoOpener next s t := by
  induction t generalizing s with
  | nil => trivial
  | cons c t ih =>
    cases t with
    | nil =>
      refine ⟨?_, trivial⟩
      rintro ⟨rfl, hstar⟩
      exact hnext ⟨rfl, hstar⟩
    | cons d t =>
      refine ⟨h.1, ih h.2 ?_⟩
      rwa [List.getLast?_cons_cons] at hnext

namespace Whole

variable {t u : Text}

/-- Whole texts, one after the other. -/
lemma append (ht : Whole t) (hu : Whole u)
    (hboundary : ¬ (t.getLast? = some '/' ∧ u.head? = some '*')) : Whole (t ++ u) where
  keepsOpen := by
    rw [along_append, ht.after_eq]
    exact ⟨keepsOpen_next ht.keepsOpen _, hu.keepsOpen⟩
  after_eq := by rw [after_append, ht.after_eq, hu.after_eq]
  noOpener := by
    rw [along_append, ht.after_eq, Option.or_none]
    exact ⟨noOpener_next ht.noOpener hboundary, hu.noOpener⟩

/-- The parts of a whole text, if the first ends on the top level. -/
lemma of_append (h : Whole (t ++ u)) (ht : top.after t = top) : Whole t ∧ Whole u := by
  obtain ⟨hkeeps, hafter, hopener⟩ := h
  rw [along_append, ht] at hkeeps hopener
  rw [after_append, ht] at hafter
  refine ⟨⟨keepsOpen_next hkeeps.1 _, ht, hopener.1.next ?_⟩, ⟨hkeeps.2, hafter, hopener.2⟩⟩
  rintro s c - ⟨-, hstar⟩
  cases hstar

/-- A text without quotes, brackets and slashes. -/
lemma of_forall (h : ∀ c ∈ t, isMark c = false ∧ c ≠ '/') : Whole t where
  keepsOpen := by
    refine along_of_forall ?_ _ _
    rintro c hc s n ⟨-, rfl⟩
    cases (h _ hc).1
  after_eq := after_of_not_isMark rfl fun c hc => (h c hc).1
  noOpener := by
    refine along_of_forall ?_ _ _
    rintro c hc s n ⟨hslash, -⟩
    exact (h c hc).2 hslash

/-- A whole text in brackets. -/
lemma group (h : Whole t) : Whole ('(' :: (t ++ [')'])) where
  keepsOpen := by
    refine ⟨by simp [KeepsOpen], ?_⟩
    rw [step_open rfl, along_append, after_raise h.keepsOpen]
    refine ⟨along_raise ?_ h.keepsOpen _, fun hclose => raise_ne_top _ hclose.1, trivial⟩
    exact fun s c n hs hclose => hs hclose.1
  after_eq := by
    rw [after_cons, step_open rfl, after_append, after_raise h.keepsOpen, h.after_eq]
    rfl
  noOpener := by
    have hinside : Along NoOpener (some ')') (top.step '(') t :=
      (noOpener_next h.noOpener (by simp)).cursor (fun _ _ _ _ => id) _
    refine ⟨by simp [NoOpener], ?_⟩
    rw [along_append]
    exact ⟨hinside, by simp [NoOpener], trivial⟩

end Whole

/-! ### Names -/

/-- The characters of names. -/
def isNameChar (c : Char) : Bool := isWord c || c = '.'

/-- They are not special. -/
lemma not_special_of_isNameChar {c : Char} (h : isNameChar c = true) : c ∉ special :=
  not_special_of_any (by decide) h

/-- No blank is part of a name. -/
lemma not_isBlank_of_isNameChar {c : Char} (h : isNameChar c = true) : isBlank c = false := by
  rw [isNameChar, Bool.or_eq_true, decide_eq_true_eq] at h
  rcases h with hword | rfl
  · exact not_isBlank_of_isWord hword
  · decide

/-- Blanks are whole. -/
lemma Whole.of_blank {t : Text} (h : ∀ c ∈ t, isBlank c = true) : Whole t :=
  .of_forall fun c hc => not_isMark_of_not_special (not_special_of_isBlank (h c hc))

lemma Whole.of_nameChar {t : Text} (h : ∀ c ∈ t, isNameChar c = true) : Whole t :=
  .of_forall fun c hc => not_isMark_of_not_special (not_special_of_isNameChar (h c hc))

/-- Blanks around a text do not keep it from being whole. -/
lemma Whole.of_surround {s body u : Text} (hs : ∀ c ∈ s, isBlank c = true)
    (hu : ∀ c ∈ u, isBlank c = true) (h : Whole (s ++ body ++ u)) : Whole body := by
  rw [List.append_assoc] at h
  have hrest : Whole (body ++ u) := (h.of_append (after_blank hs)).2
  exact (hrest.of_append (after_eq_top_of_blank hu hrest.after_eq)).1

/-- What trimming leaves of a whole text is whole. -/
lemma Whole.trim {t : Text} (h : Whole t) : Whole (Text.trim t) := by
  rcases forall_or_surround isBlank t with hall | ⟨s, body, u, rfl, hs, hbody, hu⟩
  · rw [Text.trim, trimBy_of_forall hall]
    exact .of_forall (by simp)
  · rw [Text.trim, trimBy_surround hs hbody hu]
    exact h.of_surround hs hu

/-! ### Calls -/

/-- The names of the helpers are made of the characters of names. -/
def Named (helpers : Helpers) : Prop :=
  ∀ name ∈ [helpers.string, helpers.numeric, helpers.date], ∀ c ∈ name, isNameChar c = true

/-- The characters of names are of no interest to a split. -/
lemma Named.quiet {helpers : Helpers} (h : Named helpers) : Quiet helpers := by
  intro name hname c hc
  have hspecial := not_special_of_isNameChar (h name hname c hc)
  have hmark := (not_isMark_of_not_special hspecial).1
  simp only [special, List.mem_cons, not_or] at hspecial
  simp [isQuiet, isSeparatorChar, hmark, hspecial]

/-- A call: a name, with arguments that close what they open, and at most a mark of negation. -/
def IsCall (t : Text) : Prop :=
  ∃ mark name arguments : Text, mark ∈ [[], ['!']] ∧ name ≠ [] ∧
    (∀ c ∈ name, isNameChar c = true) ∧ Whole arguments ∧
    t = mark ++ (name ++ '(' :: (arguments ++ [')']))

namespace IsCall

variable {t : Text}

/-- A condition along a call, which holds anyway inside of brackets and of the characters of
names. -/
lemma along {P : Cursor → Char → Option Char → Prop} (hP : ∀ s c n, s ≠ top → P s c n)
    (hname : ∀ c, c ∉ special → ∀ s n, P s c n) (hmark : ∀ c, c ∉ special → P top '!' (some c))
    (hopen : ∀ n, P top '(' n) (next : Option Char) (h : IsCall t) : Along P next top t := by
  obtain ⟨mark, name, arguments, hmem, hne, hchars, hwhole, rfl⟩ := h
  have hcall : Along P next top (name ++ '(' :: (arguments ++ [')'])) := by
    rw [along_append, (Whole.of_nameChar hchars).after_eq]
    refine ⟨along_of_forall (fun c hc => hname c (not_special_of_isNameChar (hchars c hc))) _ _,
      hopen _, ?_⟩
    rw [step_open rfl, along_append, after_raise hwhole.keepsOpen]
    exact ⟨along_raise hP hwhole.keepsOpen _, hP _ _ _ (raise_ne_top _), trivial⟩
  simp only [List.mem_cons, List.not_mem_nil, or_false] at hmem
  rcases hmem with rfl | rfl
  · exact hcall
  · obtain ⟨c, name, rfl⟩ := List.exists_cons_of_ne_nil hne
    exact ⟨hmark c (not_special_of_isNameChar (hchars c List.mem_cons_self)), hcall⟩

/-- There is no comparison operator on the top level of a call. -/
lemma noOperator (h : IsCall t) : Along NoOperator none top t := by
  refine h.along (P := NoOperator) (fun s c n hs htop => absurd htop hs) ?_ ?_ ?_ none
  · intro c hc s n _ hop
    simp only [isOperatorChar, Bool.or_eq_true, decide_eq_true_eq] at hop
    rcases hop with ((rfl | rfl) | rfl) | rfl <;> exact absurd (by decide) hc
  · rintro c hc - -
    refine ⟨rfl, ?_⟩
    rintro ⟨⟩
    exact hc (by decide)
  · rintro n - hop
    cases hop

/-- A call closes what it opens. -/
lemma whole (h : IsCall t) : Whole t := by
  obtain ⟨mark, name, arguments, hmem, -, hchars, hwhole, rfl⟩ := h
  have hcall : Whole (name ++ '(' :: (arguments ++ [')'])) :=
    (Whole.of_nameChar hchars).append hwhole.group (by simp)
  simp only [List.mem_cons, List.not_mem_nil, or_false] at hmem
  rcases hmem with rfl | rfl
  · exact hcall
  · exact (Whole.of_forall (by simp [isMark])).append hcall (by simp)

/-- There are no blanks around a call. -/
lemma bare (h : IsCall t) : Bare isBlank t := by
  obtain ⟨mark, name, arguments, hmem, hne, hchars, -, rfl⟩ := h
  obtain ⟨c, name, rfl⟩ := List.exists_cons_of_ne_nil hne
  refine ⟨?_, mark ++ (c :: name ++ '(' :: arguments), ')', by simp, by decide⟩
  simp only [List.mem_cons, List.not_mem_nil, or_false] at hmem
  rcases hmem with rfl | rfl
  · exact ⟨c, _, rfl, not_isBlank_of_isNameChar (hchars c List.mem_cons_self)⟩
  · exact ⟨'!', _, rfl, by decide⟩

/-- A call is not replaced again. -/
lemma call?_eq_none (h : IsCall t) (k : Knowledge) : call? k t = none := by
  have hnone : operator? t = none := operatorFrom?_eq_none h.noOperator none
  rw [call?_eq_bind, hnone]
  rfl

end IsCall

/-- The call for a comparison of whole operands is a call. -/
lemma Compared.isCall {k : Knowledge} (hnames : Named k.helpers) {c : Compared}
    (hleft : Whole c.left) (hright : Whole c.right) {call : Text} (h : c.call? k = some call) :
    IsCall call := by
  have hmark : c.op.negation ∈ [[], ['!']] := by cases c.op <;> decide
  have hname : ∀ {helper function : Text},
      helper ∈ [k.helpers.string, k.helpers.numeric, k.helpers.date] →
      (∀ d ∈ function, isNameChar d = true) →
      ∀ d ∈ helper ++ "." ++ function, isNameChar d = true := by
    intro helper function hhelper hfunction d hd
    simp only [List.mem_append] at hd
    rcases hd with (hd | hd) | hd
    · exact hnames helper hhelper d hd
    · obtain rfl : d = '.' := by simpa using hd
      rfl
    · exact hfunction d hd
  rw [Compared.call?] at h
  split at h
  next =>
    obtain rfl := Option.some.inj h
    exact ⟨c.op.negation, k.helpers.string ++ "." ++ "isEmpty", c.left, hmark, by simp,
      hname (by simp) (List.all_eq_true.mp (by decide)), hleft, by simp⟩
  next =>
    obtain ⟨helper, hhelper, rfl⟩ := Option.map_eq_some_iff.mp h
    have hcomma : Whole (", " : Text) := .of_forall (by simp [isMark])
    have hfunction : ∀ d ∈ c.op.function, isNameChar d = true := by
      refine List.all_eq_true.mp ?_
      cases c.op <;> decide
    have harguments : Whole (c.left ++ ", " ++ c.right) :=
      (hleft.append hcomma (by simp)).append hright (by simp)
    exact ⟨c.op.negation, helper ++ "." ++ c.op.function, c.left ++ ", " ++ c.right, hmark, by simp,
      hname (helper?_mem hhelper) hfunction, harguments, by simp⟩

/-- **Comparisons are replaced by calls.** -/
lemma isCall_of_call? {k : Knowledge} (hnames : Named k.helpers) {t call : Text} (ht : Whole t)
    (h : call? k t = some call) : IsCall call := by
  rw [call?_eq_bind, Option.bind_eq_some_iff] at h
  obtain ⟨⟨left, op, right⟩, hfound, hcall⟩ := h
  obtain ⟨rfl, hend⟩ := of_operatorFrom?_eq_some (s := top) hfound
  dsimp only at hcall
  split at hcall
  next => cases hcall
  next =>
    rw [List.append_assoc] at ht
    obtain ⟨hleft, hrest⟩ := ht.of_append hend
    obtain ⟨-, hright⟩ := hrest.of_append (after_sign op)
    exact Compared.isCall hnames hleft.trim hright.trim hcall

/-! ### Operands -/

/-- An operand of blanks, and not an empty one. -/
def IsBlank (operand : Text) : Prop := operand ≠ [] ∧ ∀ c ∈ operand, isBlank c = true

instance (operand : Text) : Decidable (IsBlank operand) :=
  decidable_of_iff (operand ≠ [] ∧ operand.all isBlank = true) (by simp [IsBlank])

section Replaced

variable {k : Knowledge}

/-- An operand that is not of blanks stays as it is, or its text becomes a call. -/
lemma replaceOperand_cases (hnames : Named k.helpers) {operand : Text} (h : Whole operand) :
    (∀ c ∈ operand, isBlank c = true) ∨ ¬ IsBlank operand ∧
      (replaceOperand k operand = (operand, false) ∨
        ∃ s call u, (∀ c ∈ s, isBlank c = true) ∧ IsCall call ∧ (∀ c ∈ u, isBlank c = true) ∧
          replaceOperand k operand = (s ++ call ++ u, true)) := by
  rcases forall_or_surround isBlank operand with hall | ⟨s, body, u, rfl, hs, hbody, hu⟩
  · exact .inl hall
  · have hnot : ¬ IsBlank (s ++ body ++ u) := by
      obtain ⟨c, rest, rfl, hc⟩ := hbody.head
      intro hblank
      rw [hblank.2 c (by simp)] at hc
      cases hc
    have hreplace := replaceOperand_surround k hs hbody hu
    refine .inr ⟨hnot, ?_⟩
    cases hcall : call? k body with
    | none =>
      rw [hcall] at hreplace
      exact .inl hreplace
    | some call =>
      rw [hcall] at hreplace
      exact .inr ⟨s, call, u, hs, isCall_of_call? hnames (h.of_surround hs hu) hcall, hu, hreplace⟩

/-- Neither a slash nor an asterisk is a blank. -/
lemma not_mem_of_blank {t : Text} (ht : ∀ c ∈ t, isBlank c = true) : '/' ∉ t ∧ '*' ∉ t := by
  constructor
  · intro h
    cases ht '/' h
  · intro h
    cases ht '*' h

/-- A replaced operand is whole. -/
lemma whole_replaceOperand (hnames : Named k.helpers) {operand : Text} (h : Whole operand) :
    Whole (replaceOperand k operand).1 := by
  rcases replaceOperand_cases hnames h with
    hall | ⟨-, hkept | ⟨s, call, u, hs, hcall, hu, hreplace⟩⟩
  · rw [replaceOperand_blank k hall]
    refine .of_blank fun c hc => ?_
    exact hall c (by simpa using hc)
  · rwa [hkept]
  · rw [hreplace]
    have hfront : Whole (s ++ call) := (Whole.of_blank hs).append hcall.whole fun hboundary =>
      (not_mem_of_blank hs).1 (List.mem_of_getLast? hboundary.1)
    exact hfront.append (.of_blank hu) fun hboundary =>
      (not_mem_of_blank hu).2 (List.mem_of_head? hboundary.2)

/-- **An operand that has been replaced** is not replaced again, and it stays as it is unless it is
of blanks. -/
lemma replaceOperand_replaced (hnames : Named k.helpers) {operand : Text} (h : Whole operand) :
    (replaceOperand k (replaceOperand k operand).1).2 = false ∧
      ((replaceOperand k (replaceOperand k operand).1).1 = (replaceOperand k operand).1 ↔
        ¬ IsBlank operand) := by
  rcases replaceOperand_cases hnames h with
    hall | ⟨hnot, hkept | ⟨s, call, u, hs, hcall, hu, hreplace⟩⟩
  · have htwice : ∀ c ∈ operand ++ operand, isBlank c = true :=
      fun c hc => hall c (by simpa using hc)
    rw [replaceOperand_blank k hall, replaceOperand_blank k htwice]
    refine ⟨rfl, ?_⟩
    simp only [List.append_right_eq_self, List.append_eq_nil_iff, and_self]
    exact ⟨fun hnil hblank => hblank.1 hnil, fun hblank => by_contra fun hne => hblank ⟨hne, hall⟩⟩
  · rw [hkept, hkept]
    exact ⟨rfl, fun _ => hnot, fun _ => rfl⟩
  · rw [hreplace, replaceOperand_surround k hs hcall.bare hu, hcall.call?_eq_none k]
    exact ⟨rfl, fun _ => hnot, fun _ => rfl⟩

/-! ### Conditions -/

/-- The operands of a condition that has been split. -/
def operandList (first : Text) (more : List (Text × Text)) : List Text := first :: more.map Prod.snd

/-- The operands of a condition. -/
def operands (condition : Text) : List Text :=
  operandList (splitTop condition).1 (splitTop condition).2

/-- A condition is whole if its operands are. -/
lemma whole_joined_iff {first : Text} {more : List (Text × Text)} (h : Pieced top first more) :
    Whole (joined first more) ↔ ∀ operand ∈ operandList first more, Whole operand := by
  induction more generalizing first with
  | nil => simp [joined, operandList]
  | cons p more ih =>
    obtain ⟨separator, operand⟩ := p
    obtain ⟨⟨c, hc, rfl, -⟩, hend, hmore⟩ := h
    have hsep : c = '&' ∨ c = '|' := by simpa [isSeparatorChar] using hc
    have hseparator : Whole [c, c] := by
      refine .of_forall ?_
      rcases hsep with rfl | rfl <;> simp [isMark]
    have hjoined : joined first (([c, c], operand) :: more) =
        first ++ ([c, c] ++ joined operand more) := by
      simp [joined]
    rw [hjoined]
    constructor
    · intro hwhole
      obtain ⟨hfirst, hrest⟩ := hwhole.of_append hend
      have hall := (ih hmore).mp (hrest.of_append hseparator.after_eq).2
      intro o ho
      rcases List.mem_cons.mp ho with rfl | ho
      · exact hfirst
      · exact hall o ho
    · intro hall
      have hfirst : Whole first := hall first List.mem_cons_self
      have hrest : Whole (joined operand more) :=
        (ih hmore).mpr fun o ho => hall o (List.mem_cons_of_mem _ ho)
      refine hfirst.append (hseparator.append hrest ?_) ?_ <;> rcases hsep with rfl | rfl <;> simp

/-- Replaced operands are whole. -/
lemma whole_replaced (hnames : Named k.helpers) {first : Text} {more : List (Text × Text)}
    (h : ∀ operand ∈ operandList first more, Whole operand) :
    ∀ operand ∈ operandList (replaceOperand k first).1 (replacedMore k more), Whole operand := by
  intro operand hmem
  rcases List.mem_cons.mp hmem with rfl | hmem
  · exact whole_replaceOperand hnames (h first List.mem_cons_self)
  · simp only [replacedMore, List.map_map, List.mem_map, Function.comp_apply] at hmem
    obtain ⟨p, hp, rfl⟩ := hmem
    exact whole_replaceOperand hnames (h p.2 (List.mem_cons_of_mem _ (List.mem_map_of_mem hp)))

/-- The operands behind the first stay as they are unless one of them is of blanks. -/
lemma replacedMore_replaced (hnames : Named k.helpers) {more : List (Text × Text)}
    (h : ∀ p ∈ more, Whole p.2) :
    replacedMore k (replacedMore k more) = replacedMore k more ↔ ∀ p ∈ more, ¬ IsBlank p.2 := by
  rw [replacedMore, replacedMore, List.map_map, List.map_inj_left]
  refine forall₂_congr fun p hp => ?_
  rw [← (replaceOperand_replaced hnames (h p hp)).2]
  simp

/-- **A condition that has been replaced** has nothing to replace, and it stays as it is unless one
of its operands is of blanks.

**Proof sketch.** The replaced operands are whole and as a split leaves them, so the second run
splits the condition into them.  What it makes of them is as a split leaves it too, so the condition
stays the same only if every operand does. -/
lemma replaceComparisons_replaced (hnames : Named k.helpers) {condition : Text}
    (h : Whole condition) :
    Whole (replaceComparisons k condition).1 ∧
      (replaceComparisons k (replaceComparisons k condition).1).2 = 0 ∧
      ((replaceComparisons k (replaceComparisons k condition).1).1 =
          (replaceComparisons k condition).1 ↔
        ∀ operand ∈ operands condition, ¬ IsBlank operand) := by
  rcases hsplit : splitTop condition with ⟨first, more⟩
  obtain ⟨hpieced, rfl⟩ := (splitTop_iff condition first more).mp hsplit
  have hwhole := (whole_joined_iff hpieced).mp h
  have hpieced' := pieced_replaced hnames.quiet hpieced
  have hwhole' := whole_replaced hnames hwhole
  have hpieced'' := pieced_replaced hnames.quiet hpieced'
  have hsplit' := (splitTop_iff _ _ _).mpr ⟨hpieced', rfl⟩
  have hmore : ∀ p ∈ more, Whole p.2 := fun p hp =>
    hwhole p.2 (List.mem_cons_of_mem _ (List.mem_map_of_mem hp))
  have hone : (replaceComparisons k (joined first more)).1 =
      joined (replaceOperand k first).1 (replacedMore k more) := by
    rw [replaceComparisons_of_splitTop k hsplit]
    rfl
  rw [hone, replaceComparisons_of_splitTop k hsplit', operands, hsplit]
  refine ⟨(whole_joined_iff hpieced').mpr hwhole', ?_, ?_⟩
  · rw [List.count_eq_zero]
    intro hmem
    rcases List.mem_cons.mp hmem with htrue | hmem
    · rw [(replaceOperand_replaced hnames (hwhole first List.mem_cons_self)).1] at htrue
      cases htrue
    · simp only [replacedMore, List.map_map, List.mem_map, Function.comp_apply] at hmem
      obtain ⟨p, hp, htrue⟩ := hmem
      rw [(replaceOperand_replaced hnames (hmore p hp)).1] at htrue
      cases htrue
  · have hblank : (∀ operand ∈ operandList first more, ¬ IsBlank operand) ↔
        ¬ IsBlank first ∧ ∀ p ∈ more, ¬ IsBlank p.2 := by
      rw [operandList, List.forall_mem_cons, List.forall_mem_map]
    rw [hblank, ← (replaceOperand_replaced hnames (hwhole first List.mem_cons_self)).2,
      ← replacedMore_replaced hnames hmore]
    constructor
    · intro heq
      have hagain := (splitTop_iff _ _ _).mpr ⟨hpieced'', heq⟩
      rw [hsplit'] at hagain
      obtain ⟨hfirst, hrest⟩ := Prod.mk.inj hagain
      exact ⟨hfirst.symm, hrest.symm⟩
    · rintro ⟨hfirst, hrest⟩
      exact congrArg₂ joined hfirst hrest

end Replaced

/-! ### Units -/

/-- The condition of a unit, if it is closed. -/
def condition? (code : Text) : Option Text :=
  (opened? code).bind fun (_, body) => (closing? body).map Prod.fst

/-- Where the condition of a unit comes from. -/
lemma condition?_eq_some_iff (code condition : Text) :
    condition? code = some condition ↔ ∃ head body rest, opened? code = some (head, body) ∧
      closing? body = some (condition, rest) := by
  simp [condition?, Option.bind_eq_some_iff, Option.map_eq_some_iff]

/-- A line comment stays as it is. -/
lemma process_slash (k : Knowledge) (t : Text) : process k ('/' :: t) = ⟨'/' :: t, 0⟩ := rfl

/-- What is found before the closing bracket is whole, unless there is a comment. -/
lemma whole_of_closing? {body condition rest : Text} (h : closing? body = some (condition, rest))
    (hcomment : ¬ ['/', '*'] <:+: condition) : Whole condition := by
  have hopener : Along NoOpener none top condition := along_noOpener hcomment top
  obtain ⟨-, hkeeps, hend⟩ := of_closingFrom?_eq_some (s := top) h hopener
  exact ⟨hkeeps, hend, hopener⟩

/-- A unit with a whole condition. -/
lemma process_whole (k : Knowledge) {code head body condition rest : Text}
    (hopen : opened? code = some (head, body)) (hbody : body = condition ++ ')' :: rest)
    (h : Whole condition) :
    process k code = ⟨head ++ (replaceComparisons k condition).1 ++ ")" ++ rest,
      (replaceComparisons k condition).2⟩ := by
  have hclose : closing? body = some (condition, rest) := by
    rw [hbody]
    exact closingFrom?_append h.keepsOpen h.noOpener h.after_eq rest
  exact process_of_condition k hopen hclose (markers_eq_nil h.noOpener)

/-- **A unit with a whole condition, processed twice.** -/
lemma process_process_whole {k : Knowledge} (hnames : Named k.helpers)
    {code head body condition rest : Text} (hopen : opened? code = some (head, body))
    (hbody : body = condition ++ ')' :: rest) (h : Whole condition) :
    (process k (process k code).code).replaced = 0 ∧
      ((process k (process k code).code).code = (process k code).code ↔
        ∀ operand ∈ operands condition, ¬ IsBlank operand) := by
  obtain ⟨hwhole, hnone, hsame⟩ := replaceComparisons_replaced hnames h
  obtain ⟨blanks, hblanks, hhead, -⟩ := (opened?_eq_some_iff _ _ _).mp hopen
  have hagain : opened? (head ++ (replaceComparisons k condition).1 ++ ")" ++ rest) =
      some (head, (replaceComparisons k condition).1 ++ ')' :: rest) :=
    (opened?_eq_some_iff _ _ _).mpr ⟨blanks, hblanks, hhead, by simp⟩
  rw [process_whole k hopen hbody h, process_whole k hagain rfl hwhole]
  refine ⟨hnone, ?_⟩
  rw [← hsame]
  simp

/-- A unit is settled after one run if its condition has error markers, or if it has none that is
closed: it stays as it is, or it starts with a line comment then. -/
lemma process_settled (k : Knowledge) {code : Text}
    (h : ∀ condition, condition? code = some condition → markers condition ≠ []) :
    process k (process k code).code = ⟨(process k code).code, 0⟩ := by
  cases hopen : opened? code with
  | none =>
    have hkept : process k code = ⟨code, 0⟩ := by rw [process, hopen]
    rw [hkept, hkept]
  | some found =>
    obtain ⟨head, body⟩ := found
    cases hclose : closing? body with
    | none =>
      have hreview : process k code = ⟨reviewMarker ++ "\n" ++ code, 0⟩ := by
        simp only [process, hopen, hclose]
      rw [hreview]
      exact process_slash k _
    | some found =>
      obtain ⟨condition, rest⟩ := found
      have hcondition : condition? code = some condition :=
        (condition?_eq_some_iff _ _).mpr ⟨head, body, rest, hopen, hclose⟩
      obtain ⟨marker, more, hmarkers⟩ := List.exists_cons_of_ne_nil (h condition hcondition)
      have hcommented : process k code = ⟨commentOut code (marker :: more), 0⟩ := by
        simp only [process, hopen, hclose, hmarkers]
      rw [hcommented]
      exact process_slash k _

/-- **Processing twice.**  The second run replaces nothing.  It leaves the unit as it is exactly if
the first run did not meet an operand of blanks. -/
theorem process_process (k : Knowledge) (names : Named k.helpers) (code : Text)
    (comments : ∀ condition, condition? code = some condition →
      markers condition ≠ [] ∨ ¬ ['/', '*'] <:+: condition) :
    (process k (process k code).code).replaced = 0 ∧
      ((process k (process k code).code).code = (process k code).code ↔
        ∀ condition, condition? code = some condition → markers condition = [] →
          ∀ operand ∈ operands condition, ¬ IsBlank operand) := by
  by_cases hplain : ∃ condition, condition? code = some condition ∧ markers condition = []
  · obtain ⟨condition, hcondition, hmarkers⟩ := hplain
    obtain ⟨head, body, rest, hopen, hclose⟩ := (condition?_eq_some_iff _ _).mp hcondition
    have hcomment := (comments condition hcondition).resolve_left (by simp [hmarkers])
    have hwhole := whole_of_closing? hclose hcomment
    obtain ⟨hbody, -, -⟩ := of_closingFrom?_eq_some (s := top) hclose hwhole.noOpener
    obtain ⟨hnone, hsame⟩ := process_process_whole names hopen hbody hwhole
    refine ⟨hnone, hsame.trans ?_⟩
    rw [hcondition]
    simp [hmarkers]
  · have hmarked : ∀ condition, condition? code = some condition → markers condition ≠ [] :=
      fun condition hsome hnil => hplain ⟨condition, hsome, hnil⟩
    rw [process_settled k hmarked]
    refine ⟨rfl, fun _ condition hsome hnil => ?_, fun _ => rfl⟩
    exact absurd hnil (hmarked condition hsome)

/-- Nothing is known of types and variables. -/
def noKnowledge : Knowledge := ⟨.empty, .empty, {}⟩

/-- A unit with a comparison and a call in its condition. -/
def sampleUnit : Text := "if( a != 1 && f(x) ) {}"

/-- A unit with a blank for a condition. -/
def blankUnit : Text := "if( ) {}"

lemma named_default : Named noKnowledge.helpers := by
  intro name hname
  refine List.all_eq_true.mp ?_
  simp only [List.mem_cons, List.not_mem_nil, or_false] at hname
  rcases hname with rfl | rfl | rfl <;> decide +kernel

lemma condition?_sampleUnit : condition? sampleUnit = some " a != 1 && f(x) " := by
  decide +kernel

/-- The sample is settled after one run. -/
theorem process_process_sampleUnit :
    Named noKnowledge.helpers ∧
      (∀ condition, condition? sampleUnit = some condition →
        markers condition ≠ [] ∨ ¬ ['/', '*'] <:+: condition) ∧
      (process noKnowledge (process noKnowledge sampleUnit).code).replaced = 0 ∧
      (process noKnowledge (process noKnowledge sampleUnit).code).code =
        (process noKnowledge sampleUnit).code := by
  have hcomments : ∀ condition, condition? sampleUnit = some condition →
      markers condition ≠ [] ∨ ¬ ['/', '*'] <:+: condition := by
    intro condition hsome
    rw [condition?_sampleUnit] at hsome
    obtain rfl := Option.some.inj hsome
    exact .inr (by decide +kernel)
  obtain ⟨hnone, hsame⟩ := process_process noKnowledge named_default sampleUnit hcomments
  refine ⟨named_default, hcomments, hnone, hsame.mpr fun condition hsome _ => ?_⟩
  rw [condition?_sampleUnit] at hsome
  obtain rfl := Option.some.inj hsome
  decide +kernel

/-- **A blank for a condition is written twice** by the first run, and again by the second. -/
theorem process_process_blankUnit :
    Named noKnowledge.helpers ∧
      (∀ condition, condition? blankUnit = some condition →
        markers condition ≠ [] ∨ ¬ ['/', '*'] <:+: condition) ∧
      process noKnowledge blankUnit = ⟨"if(  ) {}", 0⟩ ∧
      process noKnowledge (process noKnowledge blankUnit).code = ⟨"if(    ) {}", 0⟩ := by
  refine ⟨named_default, ?_, by decide +kernel, by decide +kernel⟩
  have hcondition : condition? blankUnit = some " " := by decide +kernel
  intro condition hsome
  rw [hcondition] at hsome
  obtain rfl := Option.some.inj hsome
  exact .inr (by decide)

end RuleSheet.Guard
