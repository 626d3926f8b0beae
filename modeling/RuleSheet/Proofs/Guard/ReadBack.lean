import RuleSheet.Condition
import RuleSheet.Proofs.Guard.Calls

/-!
# Printed conditions are read back

A condition is printed as comparisons between operands, with connectives between them.  Processing
has to find the same comparisons in the text again, whatever literals and brackets the operands
hold.  This module gives the grammar of operands, and shows that processing a printed unit replaces
every comparison by the rules for its call, and nothing else.

## Main definitions

* `RuleSheet.Guard.Closed`, `Operand` — the grammar of operands.
* `RuleSheet.Guard.printed` — the text of a condition.

## Main results

* `RuleSheet.Guard.Closed.along` — what the scans meet along a text of the grammar.
* `RuleSheet.Guard.call?_text` — a printed comparison is read back.
* `RuleSheet.Guard.process_printed` — so is a printed unit.

## Design

The grammar is said without the scans: three scans with an account of their own have to agree with
it.
-/

set_option autoImplicit false

namespace RuleSheet.Guard

open Text Cursor

/-! ### Operands -/

/-- The inside of a literal.  A backslash takes the character after it out of account. -/
inductive LiteralBody (quote : Char) : Text → Prop
  /-- Nothing. -/
  | nil : LiteralBody quote []
  /-- A character that does not end the literal. -/
  | plain {c : Char} {t : Text} (hquote : c ≠ quote) (hescape : c ≠ '\\')
      (ht : LiteralBody quote t) : LiteralBody quote (c :: t)
  /-- A backslash and any character. -/
  | escaped (c : Char) {t : Text} (ht : LiteralBody quote t) : LiteralBody quote ('\\' :: c :: t)

/-- What may stand in an operand outside of brackets and literals: no part of a comparison operator,
and no logical operator. -/
def Allowed (c : Char) (next : Option Char) : Prop :=
  c ∉ ['=', '!', '<', '>'] ∧ ¬ (c ∈ ['&', '|'] ∧ next = some c)

instance (c : Char) (next : Option Char) : Decidable (Allowed c next) :=
  inferInstanceAs (Decidable (_ ∧ _))

/-- Code with all its literals and brackets closed.  On the outer level only what is allowed in an
operand may stand. -/
inductive Closed : Bool → Text → Prop
  /-- Nothing. -/
  | nil {outer : Bool} : Closed outer []
  /-- A character that is neither quote nor bracket. -/
  | char {outer : Bool} {c : Char} {t : Text} (hmark : c ∉ ['"', '\'', '(', ')'])
      (hallowed : outer = true → Allowed c t.head?) (ht : Closed outer t) : Closed outer (c :: t)
  /-- A literal. -/
  | literal {outer : Bool} {quote : Char} {body t : Text} (hquote : quote ∈ ['"', '\''])
      (hbody : LiteralBody quote body) (ht : Closed outer t) :
      Closed outer (quote :: (body ++ quote :: t))
  /-- Code in brackets. -/
  | group {outer : Bool} {inside t : Text} (hinside : Closed false inside) (ht : Closed outer t) :
      Closed outer ('(' :: (inside ++ ')' :: t))

/-- The operands of printed comparisons. -/
structure Operand (t : Text) : Prop where
  /-- There is an operand. -/
  ne_nil : t ≠ []
  /-- There are no blanks around it. -/
  trimmed : trim t = t
  /-- It opens no comment. -/
  noComment : ¬ ['/', '*'] <:+: t
  /-- Its literals and brackets are closed, and no operator stands outside of them. -/
  closed : Closed true t

/-- A text without quotes and brackets. -/
lemma not_isMark_of_not_mem {c : Char} (h : c ∉ ['"', '\'', '(', ')']) : isMark c = false := by
  simp only [List.mem_cons, List.not_mem_nil, or_false, not_or] at h
  simp [isMark, h]

section Scans

variable {P : Cursor → Char → Option Char → Prop}

/-- The inside of a literal does not end it. -/
lemma LiteralBody.after_eq {quote : Char} {body : Text} (h : LiteralBody quote body)
    (depth : Nat) :
    (⟨depth, .inside quote false⟩ : Cursor).after body = ⟨depth, .inside quote false⟩ := by
  induction h with
  | nil => rfl
  | plain hquote hescape _ ih => simpa [step, depthAfter, Quoting.step, hquote, hescape] using ih
  | escaped c _ ih => simpa [step, depthAfter, Quoting.step] using ih

/-- The inside of a literal is read in quotes. -/
lemma LiteralBody.along (hP : ∀ s c n, s.quoting ≠ .outside → P s c n) {quote : Char} {body : Text}
    (h : LiteralBody quote body) (depth : Nat) (next : Option Char) :
    Along P next ⟨depth, .inside quote false⟩ body := by
  induction h with
  | nil => trivial
  | plain hquote hescape _ ih =>
    refine ⟨hP _ _ _ (by simp), ?_⟩
    simpa [step, depthAfter, Quoting.step, hquote, hescape] using ih
  | escaped c _ ih =>
    refine ⟨hP _ _ _ (by simp), hP _ _ _ (by simp [step, Quoting.step]), ?_⟩
    simpa [step, depthAfter, Quoting.step] using ih

/-- A quote starts a literal. -/
lemma step_quote {s : Cursor} {quote : Char} (hs : s.quoting = .outside)
    (hquote : quote ∈ ['"', '\'']) : s.step quote = ⟨s.depth, .inside quote false⟩ := by
  simp only [List.mem_cons, List.not_mem_nil, or_false] at hquote
  rcases hquote with rfl | rfl <;> simp [step, depthAfter, Quoting.step, hs]

/-- The same quote ends it. -/
lemma step_unquote {s : Cursor} {quote : Char} (hs : s.quoting = .outside)
    (hquote : quote ∈ ['"', '\'']) :
    (⟨s.depth, .inside quote false⟩ : Cursor).step quote = s := by
  obtain ⟨depth, quoting⟩ := s
  subst hs
  simp only [List.mem_cons, List.not_mem_nil, or_false] at hquote
  rcases hquote with rfl | rfl <;> rfl

/-- Closed code leaves the cursor where it was. -/
lemma Closed.after_eq {outer : Bool} {t : Text} (h : Closed outer t) {s : Cursor}
    (hs : s.quoting = .outside) : s.after t = s := by
  induction h generalizing s with
  | nil => rfl
  | char hmark _ _ ih => rw [after_cons, step_of_not_isMark hs (not_isMark_of_not_mem hmark), ih hs]
  | literal hquote hbody _ ih =>
    rw [after_cons, after_append, after_cons, step_quote hs hquote, hbody.after_eq,
      step_unquote hs hquote, ih hs]
  | group _ _ ihinside ih =>
    rw [after_cons, after_append, after_cons, step_open hs, ihinside (s := s.raise) hs,
      raise_step_close hs, ih hs]

/-- **What the scans meet along closed code.**  A condition that only the outer level can break
holds along the code if it holds there of quotes, of opening brackets and of what is allowed in an
operand.

**Proof sketch.** Induction on the grammar, with the cursor anywhere outside of literals.  Inside
brackets the cursor is not at the top, and inside of a literal neither. -/
lemma Closed.along (hP : ∀ s c n, s ≠ top → P s c n)
    (hopen : ∀ c ∈ ['"', '\'', '('], ∀ n, P top c n) {outer : Bool} {t : Text}
    (h : Closed outer t) {next : Option Char}
    (hchar : outer = true →
      ∀ c n, c ∉ ['"', '\'', '(', ')'] → Allowed c n → P top c (n.or next))
    {s : Cursor} (hs : s.quoting = .outside) (houter : s = top → outer = true) :
    Along P next s t := by
  induction h generalizing s next with
  | nil => trivial
  | @char outer c t hmark hallowed _ ih =>
    refine ⟨?_, ?_⟩
    · by_cases htop : s = top
      · rw [htop]
        exact hchar (houter htop) c t.head? hmark (hallowed (houter htop))
      · exact hP s c _ htop
    · rw [step_of_not_isMark hs (not_isMark_of_not_mem hmark)]
      exact ih hchar hs houter
  | @literal outer quote body t hquote hbody _ ih =>
    refine ⟨?_, ?_⟩
    · by_cases htop : s = top
      · rw [htop]
        exact hopen quote (List.mem_append_left ['('] hquote) _
      · exact hP s quote _ htop
    · have hquoted : ∀ s c n, s.quoting ≠ .outside → P s c n :=
        fun s c n hq => hP s c n fun htop => hq (congrArg Cursor.quoting htop)
      rw [step_quote hs hquote, along_append, hbody.after_eq]
      refine ⟨hbody.along hquoted _ _, hquoted _ _ _ (by simp), ?_⟩
      rw [step_unquote hs hquote]
      exact ih hchar hs houter
  | @group outer inside t hinside _ ihinside ih =>
    refine ⟨?_, ?_⟩
    · by_cases htop : s = top
      · rw [htop]
        exact hopen '(' (by simp) _
      · exact hP s '(' _ htop
    · rw [step_open hs, along_append, hinside.after_eq (s := s.raise) hs]
      refine ⟨ihinside (by simp) hs fun htop => absurd htop s.raise_ne_top,
        hP _ _ _ s.raise_ne_top, ?_⟩
      rw [raise_step_close hs]
      exact ih hchar hs houter

end Scans

namespace Operand

variable {t : Text}

/-- There are no blanks around an operand. -/
lemma bare (h : Operand t) : Bare isBlank t := bare_of_trimBy h.trimmed h.ne_nil

/-- An operand leaves the cursor on the top level. -/
lemma after_eq (h : Operand t) : top.after t = top := h.closed.after_eq rfl

lemma noOpener (h : Operand t) (s : Cursor) : Along NoOpener none s t :=
  along_noOpener h.noComment s

lemma keepsOpen (h : Operand t) (next : Option Char) : Along KeepsOpen next top t := by
  refine h.closed.along (P := KeepsOpen) (fun s c n hs hclose => hs hclose.1) ?_ ?_ rfl fun _ => rfl
  · intro c hc n hclose
    simp [hclose.2] at hc
  · intro _ c n hc _ hclose
    simp [hclose.2] at hc

lemma noSeparator (h : Operand t) {next : Option Char} (hnext : ∀ c ∈ ['&', '|'], next ≠ some c) :
    Along NoSeparator next top t := by
  refine h.closed.along (P := NoSeparator) (fun s c n hs hsep => hs hsep.1) ?_ ?_ rfl fun _ => rfl
  · rintro c hc n ⟨-, rfl | rfl, -⟩ <;> simp at hc
  · rintro - c n - hallowed ⟨-, hc, heq⟩
    have hmem : c ∈ ['&', '|'] := by simpa using hc
    cases n with
    | none => exact hnext c hmem (by simpa using heq)
    | some d => exact hallowed.2 ⟨hmem, by simpa using heq⟩

/-- No part of an operator stands on the top level of an operand. -/
lemma noOperator (h : Operand t) (next : Option Char) :
    Along (fun s c _ => s = top → isOperatorChar c = false) next top t := by
  refine h.closed.along (fun s c n hs htop => absurd htop hs) ?_ ?_ rfl fun _ => rfl
  · intro c hc n _
    simp only [List.mem_cons, List.not_mem_nil, or_false] at hc
    rcases hc with rfl | rfl | rfl <;> rfl
  · intro _ c n _ hallowed _
    simpa [isOperatorChar, not_or, and_assoc] using hallowed.1

end Operand

/-! ### Printed comparisons -/

/-- The text of a comparison. -/
def Compared.text (c : Compared) : Text := c.left ++ " " ++ c.op.sign ++ " " ++ c.right

/-- A condition, with a text for each of its comparisons. -/
def printed (text : Compared → Text) (first : Compared) (more : List (Connective × Compared)) :
    Text :=
  text first ++ more.flatMap fun p => (" " ++ p.1.java ++ " " ++ text p.2 : Text)

namespace Compared

/-- What stands between the operands of a comparison. -/
def between (c : Compared) : Text := " " ++ c.op.sign ++ " "

variable {c : Compared}

/-- A comparison in three parts. -/
lemma text_eq (c : Compared) : c.text = c.left ++ (c.between ++ c.right) := by
  simp [text, between]

lemma mem_between {d : Char} (h : d ∈ c.between) : d = ' ' ∨ isOperatorChar d = true := by
  simp only [between, List.mem_append] at h
  rcases h with (h | h) | h
  · exact .inl (by simpa using h)
  · exact .inr (isOperatorChar_of_mem_sign h)
  · exact .inl (by simpa using h)

lemma after_between (c : Compared) : top.after c.between = top := by
  refine after_of_not_isMark rfl fun d hd => ?_
  rcases mem_between hd with rfl | hop
  · rfl
  · simp only [isOperatorChar, Bool.or_eq_true, decide_eq_true_eq] at hop
    rcases hop with ((rfl | rfl) | rfl) | rfl <;> rfl

/-- A comparison leaves the cursor on the top level. -/
lemma after_text (hleft : Operand c.left) (hright : Operand c.right) : top.after c.text = top := by
  rw [text_eq, after_append, after_append, hleft.after_eq, after_between, hright.after_eq]

/-- A condition along a comparison, which holds anyway of blanks and of the characters of
operators. -/
lemma along {P : Cursor → Char → Option Char → Prop} {next : Option Char}
    (hbetween : ∀ d, d = ' ' ∨ isOperatorChar d = true → ∀ s n, P s d n)
    (hend : top.after c.left = top) (hleft : Along P (some ' ') top c.left)
    (hright : Along P next top c.right) : Along P next top c.text := by
  have hhead : (c.between ++ c.right).head?.or next = some ' ' := rfl
  rw [text_eq, along_append, hhead, hend, along_append, after_between]
  exact ⟨hleft, along_of_forall (fun d hd => hbetween d (mem_between hd)) _ _, hright⟩

lemma keepsOpen (hleft : Operand c.left) (hright : Operand c.right) (next : Option Char) :
    Along KeepsOpen next top c.text := by
  refine along ?_ hleft.after_eq (hleft.keepsOpen _) (hright.keepsOpen _)
  rintro d hd s n ⟨-, rfl⟩
  rcases hd with hd | hd <;> cases hd

lemma noOpener (hleft : Operand c.left) (hright : Operand c.right) {next : Option Char}
    (hnext : next ≠ some '*') : Along NoOpener next top c.text := by
  refine along ?_ hleft.after_eq ((hleft.noOpener _).next ?_) ((hright.noOpener _).next ?_)
  · rintro d hd s n ⟨rfl, -⟩
    rcases hd with hd | hd <;> cases hd
  · rintro s d - ⟨-, hstar⟩
    cases hstar
  · rintro s d - ⟨-, hstar⟩
    exact hnext hstar

lemma noSeparator (hleft : Operand c.left) (hright : Operand c.right) {next : Option Char}
    (hnext : ∀ d ∈ ['&', '|'], next ≠ some d) : Along NoSeparator next top c.text := by
  refine along ?_ hleft.after_eq (hleft.noSeparator (by simp)) (hright.noSeparator hnext)
  rintro d hd s n ⟨-, rfl | rfl, -⟩ <;> rcases hd with hd | hd <;> cases hd

lemma bare (hleft : Operand c.left) (hright : Operand c.right) : Bare isBlank c.text := by
  rw [text_eq, ← List.append_assoc]
  exact hleft.bare.append hright.bare c.between

/-- The operator that is found in a comparison is its own. -/
lemma operator?_text (hleft : Operand c.left) :
    operator? c.text = some (c.left ++ " ", c.op, " " ++ c.right) := by
  have hbefore : Along (fun s d _ => s = top → isOperatorChar d = false) none top
      (c.left ++ " ") := by
    rw [along_append]
    exact ⟨hleft.noOperator _, fun _ => rfl, trivial⟩
  have hblank : (c.left ++ (" " : Text)).getLast?.or none = some ' ' := by simp
  have hend : top.after (c.left ++ (" " : Text)) = top := by
    rw [after_append, hleft.after_eq]
    rfl
  have hsign : operatorFrom? (some ' ') top.depth top.quoting (c.op.sign ++ (" " ++ c.right)) =
      some ([], c.op, " " ++ c.right) := operatorFrom?_sign rfl c.op (by simp)
  calc operator? c.text
      = operatorFrom? none top.depth top.quoting
          (c.left ++ " " ++ (c.op.sign ++ (" " ++ c.right))) := by simp [operator?, text, top]
    _ = some (c.left ++ " ", c.op, " " ++ c.right) := by
      rw [operatorFrom?_append hbefore, hblank, hend, hsign]
      simp

end Compared

/-- The space around a comparison is a blank. -/
lemma isBlank_space : ∀ d ∈ (" " : Text), isBlank d = true := List.all_eq_true.mp (by decide)

/-- A printed comparison is read back. -/
lemma call?_text (k : Knowledge) {c : Compared} (hleft : Operand c.left)
    (hright : Operand c.right) : call? k c.text = c.call? k := by
  have hl : trim (c.left ++ " ") = c.left :=
    trimBy_surround (s := []) (by simp) hleft.bare isBlank_space
  have hr : trim (" " ++ c.right) = c.right := by
    have htrim := trimBy_surround (u := []) isBlank_space hright.bare (by simp)
    rwa [List.append_nil] at htrim
  have hnil : ¬ (c.left = [] ∨ c.right = []) := by simp [hleft.ne_nil, hright.ne_nil]
  rw [call?_eq_bind, Compared.operator?_text hleft, Option.bind_some]
  dsimp only
  rw [hl, hr, if_neg hnil]

/-! ### Whole conditions -/

/-- The comparisons of a condition. -/
def compared (first : Compared) (more : List (Connective × Compared)) : List Compared :=
  first :: more.map Prod.snd

/-- Every comparison of a condition is between operands. -/
def Operands (first : Compared) (more : List (Connective × Compared)) : Prop :=
  ∀ c ∈ compared first more, Operand c.left ∧ Operand c.right

/-- The operands of a condition, with the blanks around them. -/
def pieces (text : Compared → Text) (lead : Text) (first : Compared) :
    List (Connective × Compared) → Text × List (Text × Text)
  | [] => (lead ++ text first, [])
  | (connective, c) :: more =>
    (lead ++ text first ++ " ",
      (connective.java, (pieces text " " c more).1) :: (pieces text " " c more).2)

section Printed

variable {first : Compared} {more : List (Connective × Compared)}

lemma Operands.tail {connective : Connective} {c : Compared}
    (h : Operands first ((connective, c) :: more)) : Operands c more :=
  fun d hd => h d (List.mem_cons_of_mem _ hd)

lemma printed_cons (text : Compared → Text) (first : Compared) (connective : Connective)
    (c : Compared) (more : List (Connective × Compared)) :
    printed text first ((connective, c) :: more) =
      text first ++ (" " ++ connective.java ++ " " ++ printed text c more) := by
  simp [printed]

/-- The operands of a condition join to its text. -/
lemma joined_pieces (text : Compared → Text) (lead : Text) :
    joined (pieces text lead first more).1 (pieces text lead first more).2 =
      lead ++ printed text first more := by
  induction more generalizing lead first with
  | nil => simp [pieces, joined, printed]
  | cons p more ih =>
    obtain ⟨connective, c⟩ := p
    have hjoined : joined (pieces text lead first ((connective, c) :: more)).1
        (pieces text lead first ((connective, c) :: more)).2 =
          lead ++ text first ++ " " ++ connective.java ++
            joined (pieces text " " c more).1 (pieces text " " c more).2 := by
      simp [pieces, joined]
    rw [hjoined, ih, printed_cons]
    simp

/-- The characters between two comparisons. -/
lemma mem_connective {connective : Connective} {d : Char}
    (h : d ∈ (" " ++ connective.java ++ " " : Text)) : d ∈ [' ', '&', '|'] := by
  cases connective with
  | and =>
    have hd : d = ' ' ∨ d = '&' ∨ d = ' ' := by simpa [Connective.java] using h
    rcases hd with rfl | rfl | rfl <;> decide
  | or =>
    have hd : d = ' ' ∨ d = '|' ∨ d = ' ' := by simpa [Connective.java] using h
    rcases hd with rfl | rfl | rfl <;> decide

lemma after_connective (connective : Connective) :
    top.after (" " ++ connective.java ++ " " : Text) = top := by
  cases connective <;> decide

/-- A condition along a printed condition, which holds anyway of blanks and of connectives. -/
lemma along_printed {P : Cursor → Char → Option Char → Prop}
    (hbetween : ∀ d ∈ [' ', '&', '|'], ∀ s n, P s d n)
    (htext : ∀ c ∈ compared first more, top.after c.text = top ∧ Along P (some ' ') top c.text ∧
      Along P none top c.text) :
    top.after (printed Compared.text first more) = top ∧
      Along P none top (printed Compared.text first more) := by
  induction more generalizing first with
  | nil =>
    obtain ⟨hend, -, halong⟩ := htext first List.mem_cons_self
    simpa [printed] using And.intro hend halong
  | cons p more ih =>
    obtain ⟨connective, c⟩ := p
    obtain ⟨hend, hfirst, -⟩ := htext first List.mem_cons_self
    obtain ⟨hmoreEnd, hmore⟩ := ih fun d hd => htext d (List.mem_cons_of_mem _ hd)
    rw [printed_cons, after_append, after_append, hend, after_connective, along_append,
      along_append, hend, after_connective]
    exact ⟨hmoreEnd, hfirst, along_of_forall (fun d hd => hbetween d (mem_connective hd)) _ _,
      hmore⟩

/-- The operands of a condition are as a split leaves them. -/
lemma pieced_pieces (h : Operands first more) {lead : Text} (hlead : ∀ d ∈ lead, isBlank d = true) :
    Pieced top (pieces Compared.text lead first more).1
      (pieces Compared.text lead first more).2 := by
  induction more generalizing lead first with
  | nil =>
    obtain ⟨hleft, hright⟩ := h first List.mem_cons_self
    refine (along_append none top lead first.text).mpr ⟨noSeparator_blank hlead _ _, ?_⟩
    rw [after_blank hlead]
    exact Compared.noSeparator hleft hright (by simp)
  | cons p more ih =>
    obtain ⟨connective, c⟩ := p
    obtain ⟨hleft, hright⟩ := h first List.mem_cons_self
    obtain ⟨d, hd, hjava⟩ : ∃ d, isSeparatorChar d = true ∧ connective.java = [d, d] := by
      cases connective with
      | and => exact ⟨'&', rfl, rfl⟩
      | or => exact ⟨'|', rfl, rfl⟩
    refine ⟨⟨d, hd, hjava, ?_⟩, ?_, ih h.tail isBlank_space⟩
    · rw [pieces, along_append, along_append, after_blank hlead]
      exact ⟨⟨noSeparator_blank hlead _ _, Compared.noSeparator hleft hright (by simp)⟩,
        noSeparator_blank isBlank_space _ _⟩
    · rw [pieces, after_append, after_append, after_blank hlead, Compared.after_text hleft hright,
        after_blank isBlank_space]

/-- A printed comparison becomes its call, and the blanks around it stay. -/
lemma replaceOperand_text (k : Knowledge) {c : Compared} (hleft : Operand c.left)
    (hright : Operand c.right) (lead trail : Text) (hlead : ∀ d ∈ lead, isBlank d = true)
    (htrail : ∀ d ∈ trail, isBlank d = true) :
    replaceOperand k (lead ++ c.text ++ trail) =
      (lead ++ (c.call? k).getD c.text ++ trail, (c.call? k).isSome) := by
  rw [replaceOperand_surround k hlead (Compared.bare hleft hright) htrail,
    call?_text k hleft hright]

/-- The operands of a condition become those of the condition with the calls. -/
lemma replaceOperand_pieces (k : Knowledge) (h : Operands first more) (lead : Text)
    (hlead : ∀ d ∈ lead, isBlank d = true) :
    (replaceOperand k (pieces Compared.text lead first more).1).1 =
        (pieces (fun c => (c.call? k).getD c.text) lead first more).1 ∧
      (pieces Compared.text lead first more).2.map (fun p => (p.1, (replaceOperand k p.2).1)) =
        (pieces (fun c => (c.call? k).getD c.text) lead first more).2 ∧
      (replaceOperand k (pieces Compared.text lead first more).1).2 ::
          (pieces Compared.text lead first more).2.map (fun p => (replaceOperand k p.2).2) =
        (compared first more).map fun c => (c.call? k).isSome := by
  induction more generalizing lead first with
  | nil =>
    obtain ⟨hleft, hright⟩ := h first List.mem_cons_self
    have hpiece := replaceOperand_text k hleft hright lead [] hlead (by simp)
    simp only [List.append_nil] at hpiece
    simp [pieces, compared, hpiece]
  | cons p more ih =>
    obtain ⟨connective, c⟩ := p
    obtain ⟨hleft, hright⟩ := h first List.mem_cons_self
    have hpiece := replaceOperand_text k hleft hright lead " " hlead isBlank_space
    obtain ⟨hfirst, hmore, hcount⟩ := ih h.tail " " isBlank_space
    simp only [pieces, compared, List.map_cons, hpiece, hfirst, hmore, hcount, true_and]

/-- A printed condition with its comparisons replaced. -/
lemma replaceComparisons_printed (k : Knowledge) (h : Operands first more) :
    replaceComparisons k (printed Compared.text first more) =
      (printed (fun c => (c.call? k).getD c.text) first more,
        (compared first more).countP fun c => (c.call? k).isSome) := by
  have hsplit : splitTop (printed Compared.text first more) =
      ((pieces Compared.text [] first more).1, (pieces Compared.text [] first more).2) := by
    rw [splitTop_iff, joined_pieces]
    exact ⟨pieced_pieces h (by simp), rfl⟩
  obtain ⟨hfirst, hmore, hcount⟩ := replaceOperand_pieces k h [] (by simp)
  rw [replaceComparisons_of_splitTop k hsplit, hfirst, hmore, hcount, joined_pieces]
  simp [List.count, List.countP_map, Function.comp_def]

/-- The closing bracket of a printed condition is found, and there are no error markers. -/
lemma closing?_printed (h : Operands first more) (rest : Text) :
    closing? (printed Compared.text first more ++ ')' :: rest) =
        some (printed Compared.text first more, rest) ∧
      markers (printed Compared.text first more) = [] := by
  have hbetween : ∀ d ∈ [' ', '&', '|'], d ≠ ')' ∧ d ≠ '/' := by simp
  obtain ⟨hend, hopen⟩ : top.after (printed Compared.text first more) = top ∧
      Along KeepsOpen none top (printed Compared.text first more) := by
    refine along_printed (fun d hd s n hclose => (hbetween d hd).1 hclose.2) fun c hc => ?_
    obtain ⟨hleft, hright⟩ := h c hc
    exact ⟨Compared.after_text hleft hright, Compared.keepsOpen hleft hright _,
      Compared.keepsOpen hleft hright _⟩
  obtain ⟨-, hcomment⟩ : top.after (printed Compared.text first more) = top ∧
      Along NoOpener none top (printed Compared.text first more) := by
    refine along_printed (fun d hd s n hslash => (hbetween d hd).2 hslash.1) fun c hc => ?_
    obtain ⟨hleft, hright⟩ := h c hc
    exact ⟨Compared.after_text hleft hright, Compared.noOpener hleft hright (by simp),
      Compared.noOpener hleft hright (by simp)⟩
  exact ⟨closingFrom?_append hopen hcomment hend rest, markers_eq_nil hcomment⟩

end Printed

/-- **Printed conditions are read back.**  In a unit whose condition was printed from comparisons
between operands, processing replaces every comparison by the call that the rules give for it, keeps
the comparisons for which they give none, and touches nothing else.  It counts the calls. -/
theorem process_printed (k : Knowledge) (first : Compared) (more : List (Connective × Compared))
    (rest : Text) (operands : Operands first more) :
    ∃ calls : Compared → Option Text, (∀ c call, Becomes k c call ↔ call = calls c) ∧
      process k ("if(" ++ printed Compared.text first more ++ ")" ++ rest) =
        ⟨"if(" ++ printed (fun c => (calls c).getD c.text) first more ++ ")" ++ rest,
          (compared first more).countP fun c => (calls c).isSome⟩ := by
  refine ⟨Compared.call? k, becomes_iff k, ?_⟩
  have hopened : opened? ("if(" ++ printed Compared.text first more ++ ")" ++ rest) =
      some (("if(" : Text), printed Compared.text first more ++ ')' :: rest) := by
    rw [opened?_eq_some_iff]
    exact ⟨[], by simp, rfl, by simp⟩
  obtain ⟨hclosing, hmarkers⟩ := closing?_printed operands rest
  rw [process_of_condition k hopened hclosing hmarkers, replaceComparisons_printed k operands]

/-- One type is known. -/
def sampleKnowledge : Knowledge := ⟨TypeIndex.empty.record ['c'] .date, .empty, {}⟩

/-- A comparison with a bracket inside a literal, and an escaped quote inside another. -/
def sampleFirst : Compared :=
  ⟨['f', '(', '"', '(', '"', ')'], .ne, ['\'', '\\', '\'', '\'']⟩

/-- A comparison with the empty text, one by type, and one between operands of which nothing is
known. -/
def sampleMore : List (Connective × Compared) :=
  [(.or, ⟨['b'], .eq, ['"', '"']⟩), (.and, ⟨['c'], .ge, ['d']⟩), (.or, ⟨['d'], .lt, ['b']⟩)]

/-- All operands of the sample are in the grammar. -/
lemma operands_sample : Operands sampleFirst sampleMore := by
  have hletter : ∀ d ∈ ['b', 'c', 'd'], Operand [d] := by
    intro d hd
    simp only [List.mem_cons, List.not_mem_nil, or_false] at hd
    rcases hd with rfl | rfl | rfl <;>
      exact ⟨by decide, by decide, by decide, .char (by decide) (fun _ => by decide) .nil⟩
  have hbracket : Operand ['f', '(', '"', '(', '"', ')'] :=
    ⟨by decide, by decide, by decide, .char (by decide) (fun _ => by decide)
      (@Closed.group _ ['"', '(', '"'] [] (@Closed.literal _ '"' ['('] [] (by decide)
        (.plain (by decide) (by decide) .nil) .nil) .nil)⟩
  have hescape : Operand ['\'', '\\', '\'', '\''] :=
    ⟨by decide, by decide, by decide,
      @Closed.literal _ '\'' ['\\', '\''] [] (by decide) (.escaped '\'' .nil) .nil⟩
  have hempty : Operand ['"', '"'] :=
    ⟨by decide, by decide, by decide, @Closed.literal _ '"' [] [] (by decide) .nil .nil⟩
  intro c hc
  simp only [compared, sampleMore, List.map_cons, List.map_nil, List.mem_cons, List.not_mem_nil,
    or_false] at hc
  rcases hc with rfl | rfl | rfl | rfl
  · exact ⟨hbracket, hescape⟩
  · exact ⟨hletter 'b' (by decide), hempty⟩
  · exact ⟨hletter 'c' (by decide), hletter 'd' (by decide)⟩
  · exact ⟨hletter 'd' (by decide), hletter 'b' (by decide)⟩

/-- The sample is read back. -/
theorem process_sample :
    Operands sampleFirst sampleMore ∧
      ∃ calls : Compared → Option Text,
        (∀ c call, Becomes sampleKnowledge c call ↔ call = calls c) ∧
        process sampleKnowledge
            ("if(" ++ printed Compared.text sampleFirst sampleMore ++ ")" ++ " {}") =
          ⟨"if(" ++ printed (fun c => (calls c).getD c.text) sampleFirst sampleMore ++ ")" ++ " {}",
            (compared sampleFirst sampleMore).countP fun c => (calls c).isSome⟩ :=
  ⟨operands_sample, process_printed sampleKnowledge sampleFirst sampleMore " {}" operands_sample⟩

example : process sampleKnowledge "if(f(\"(\") != '\\'' || b == \"\" && c >= d || d < b) {}" =
    ⟨"if(!StrUtil.eq(f(\"(\"), '\\'') || StrUtil.isEmpty(b) && DateUtil.ge(c, d) || d < b) {}",
      3⟩ := by
  decide +kernel

end RuleSheet.Guard
