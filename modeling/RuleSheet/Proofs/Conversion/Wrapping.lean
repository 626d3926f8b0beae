import RuleSheet.Proofs.Conversion.Account

/-!
# Lines in one more pair of quotes

Cells of a spreadsheet may be wrapped in quotes more than once.  The normal form of a line does not
show how often.  Indentation does: it is looked for behind one quote only, so that a line which is
indented behind a quote is not indented any more in another pair of quotes.  Where blocks are made
of indented lines, such a line falls out of its block, and the rest of the block with it.  This
module says when a sheet in quotes is converted to the same result.

## Main definitions

* `RuleSheet.Line.wrap` — a line in one more pair of quotes.
* `RuleSheet.Line.quotesIndent` — the indentation of a line stands behind a quote.
* `RuleSheet.Converter.HeldByQuote` — a line belongs to a block by such an indentation.

## Main results

* `RuleSheet.Line.normalize_wrap`, `isIndented_wrap` — a line in quotes.
* `RuleSheet.Segmentation.foldl_undent` — the assembler does not see that lines lose their
  indentation, if none of them is in a block.
* `RuleSheet.Segmentation.enclosed_undent` — no line gets into a block by losing indentation.
* `RuleSheet.Converter.convertBlocks_wrap_iff` — when a sheet in quotes is converted to the same
  result.
-/

set_option autoImplicit false

namespace RuleSheet

open Text

namespace Line

/-! ### A line in quotes -/

/-- A line in one more pair of quotes. -/
def wrap (raw : Text) : Text := '"' :: raw ++ ['"']

/-- Whether the indentation of a line stands behind a quote. -/
def quotesIndent : Text → Bool
  | '"' :: c :: _ => isIndent c
  | _ => false

/-- The normal form does not show one more pair of quotes. -/
lemma normalize_wrap (raw : Text) : normalize (wrap raw) = normalize raw := by
  have hquote : isWrapping '"' = true := by decide
  have hunquote : unquote (wrap raw) = unquote raw := by
    rw [unquote, wrap, List.cons_append, trimBy_cons hquote, trimBy_append (by simpa using hquote),
      unquote]
  rw [normalize, hunquote, normalize]

/-- **A line in quotes** keeps its indentation unless that stands behind a quote already. -/
lemma isIndented_wrap (raw : Text) :
    isIndented (wrap raw) = (isIndented raw && !quotesIndent raw) := by
  have hquote : isIndent '"' = false := by decide
  cases raw with
  | nil => rfl
  | cons c rest =>
    have hwrap : isIndented (wrap (c :: rest)) = isIndent c := rfl
    rw [hwrap]
    by_cases hc : c = '"'
    · subst hc
      cases rest with
      | nil => rfl
      | cons d rest => simp [isIndented, quotesIndent, hquote]
    · have hplain : isIndented (c :: rest) = isIndent c := by
        unfold isIndented
        split
        next heq => exact absurd (List.cons.inj heq).1 hc
        next heq => rw [(List.cons.inj heq).1]
        next heq => cases heq
      have hquotes : quotesIndent (c :: rest) = false := by
        unfold quotesIndent
        split
        next heq => exact absurd (List.cons.inj heq).1 hc
        next => rfl
      simp [hplain, hquotes]

/-- A line whose indentation stands behind a quote is indented. -/
lemma isIndented_of_quotesIndent {raw : Text} (h : quotesIndent raw = true) :
    isIndented raw = true := by
  unfold quotesIndent at h
  split at h
  · exact h
  · cases h

/-- The indentation of a line survives another pair of quotes exactly if it does not stand behind a
quote. -/
lemma isIndented_wrap_iff (raw : Text) :
    isIndented (wrap raw) = isIndented raw ↔ quotesIndent raw = false := by
  rw [isIndented_wrap]
  cases hquotes : quotesIndent raw with
  | false => simp
  | true => simp [isIndented_of_quotesIndent hquotes]

end Line

/-! ### Lines that lose their indentation -/

/-- Whether a line is part of a condition. -/
def SheetLine.isCondition (line : SheetLine) : Bool :=
  match line.clause with
  | .opening _ => true
  | .continuation _ _ => true
  | _ => false

/-- What is read of a line in quotes, from the line and what is read of it. -/
def SheetLine.undent (raw : Text) (line : SheetLine) : SheetLine :=
  { line with indented := line.indented && !Line.quotesIndent raw }

namespace Segmentation

variable (scope : BlockScope)

/-- A sheet in quotes as it is read, from the lines and what is read of them. -/
def undented (sheet : List (Text × Option SheetLine)) : List (Option SheetLine) :=
  sheet.map fun entry => entry.2.map (SheetLine.undent entry.1)

lemma opens_undent (raw : Text) (line : Option SheetLine) :
    opens (line.map (SheetLine.undent raw)) = opens line := by
  cases line <;> rfl

/-- Whether a line ends a block when it has lost its indentation. -/
lemma ends_undent (raw : Text) (line : SheetLine) :
    ends scope (some (line.undent raw)) =
      (ends scope (some line) ||
        (scope = .indented && !line.isCondition && Line.quotesIndent raw)) := by
  obtain ⟨number, indented, text, clause⟩ := line
  cases clause with
  | opening part => simp [ends, SheetLine.undent]
  | continuation connective part => simp [ends, SheetLine.undent, SheetLine.isCondition]
  | statement s =>
    cases scope <;> cases indented <;> simp [ends, SheetLine.undent, SheetLine.isCondition]
  | unrecognized text =>
    cases scope <;> cases indented <;> simp [ends, SheetLine.undent, SheetLine.isCondition]

/-- A line that ends a block ends it without its indentation as well. -/
lemma ends_of_ends {raw : Text} {line : Option SheetLine} (h : ends scope line = true) :
    ends scope (line.map (SheetLine.undent raw)) = true := by
  cases line with
  | none => exact h
  | some line => rw [Option.map_some, ends_undent, h, Bool.true_or]

/-! ### The assembler -/

/-- Whether a block is open, one line later. -/
lemma isSome_step (policy : Policy) (a : Assembly) (line : Option SheetLine) :
    (a.step scope policy line).current.isSome = openAfter scope a.current.isSome line := by
  obtain ⟨current, done, skipped⟩ := a
  cases line with
  | none =>
    cases scope <;> cases current <;>
      simp [Assembly.step, Assembly.blank, Assembly.close, openAfter, opens, ends]
  | some line =>
    obtain ⟨number, indented, text, clause⟩ := line
    cases clause with
    | opening part => simp [Assembly.step, Assembly.push, openAfter, opens]
    | continuation connective part =>
      cases current <;>
        simp [Assembly.step, Assembly.push, Assembly.emit, openAfter, opens, ends]
    | statement s =>
      cases scope <;> cases indented <;> cases current <;>
        simp [Assembly.step, Assembly.push, Assembly.emit, Assembly.close, Assembly.accepting,
          openAfter, opens, ends]
    | unrecognized text =>
      cases scope <;> cases policy <;> cases indented <;> cases current <;>
        simp [Assembly.step, Assembly.push, Assembly.emit, Assembly.close, Assembly.accepting,
          openAfter, opens, ends]

/-- The assembler has an open block exactly if a block is open. -/
lemma isSome_foldl (policy : Policy) (lines : List (Option SheetLine)) :
    (lines.foldl (Assembly.step scope policy) .start).current.isSome = isOpen scope lines := by
  induction lines using List.reverseRecOn with
  | nil => rfl
  | append_singleton lines line ih =>
    rw [List.foldl_append, List.foldl_cons, List.foldl_nil, isSome_step, ih]
    simp [isOpen]

/-- **One step of the assembler** does not show that a line has lost its indentation, if no block is
open or the line ends it no more than before. -/
lemma step_undent (policy : Policy) {a : Assembly} {raw : Text} {line : Option SheetLine}
    (h : a.current.isSome = true → ends scope line = false →
      ends scope (line.map (SheetLine.undent raw)) = false) :
    a.step scope policy (line.map (SheetLine.undent raw)) = a.step scope policy line := by
  obtain ⟨current, done, skipped⟩ := a
  cases line with
  | none => rfl
  | some line =>
    obtain ⟨number, indented, text, clause⟩ := line
    -- only a line that is no part of a condition is asked whether it is indented
    have haccepting : SheetLine.isCondition ⟨number, indented, text, clause⟩ = false →
        Assembly.accepting scope ⟨current, done, skipped⟩ (indented && !Line.quotesIndent raw) =
          Assembly.accepting scope ⟨current, done, skipped⟩ indented := by
      intro hclause
      cases current with
      | none => simp [Assembly.accepting]
      | some b =>
        cases scope with
        | untilNextCondition => simp [Assembly.accepting]
        | indented =>
          cases indented with
          | false => rfl
          | true =>
            have hkept := h rfl (by
              cases clause <;> simp [SheetLine.isCondition] at hclause <;> simp [ends])
            rw [Option.map_some, ends_undent, hclause] at hkept
            have hquotes : Line.quotesIndent raw = false := by
              simpa using (Bool.or_eq_false_iff.mp hkept).2
            rw [hquotes]
            rfl
    cases clause with
    | opening part => rfl
    | continuation connective part => rfl
    | statement s =>
      simp only [Assembly.step, Option.map_some, Assembly.push, SheetLine.undent, haccepting rfl]
    | unrecognized text =>
      simp only [Assembly.step, Option.map_some, Assembly.push, SheetLine.undent, haccepting rfl]

/-- **A run of the assembler** does not show that lines have lost their indentation, if none of them
ends the block that it was in. -/
lemma foldl_undent (policy : Policy) (sheet : List (Text × Option SheetLine))
    (h : ∀ before entry after, sheet = before ++ entry :: after →
      isOpen scope (before.map Prod.snd) = true → ends scope entry.2 = false →
      ends scope (entry.2.map (SheetLine.undent entry.1)) = false) :
    (undented sheet).foldl (Assembly.step scope policy) .start =
      (sheet.map Prod.snd).foldl (Assembly.step scope policy) .start := by
  induction sheet using List.reverseRecOn with
  | nil => rfl
  | append_singleton sheet entry ih =>
    have hbefore := ih fun before entry' after heq =>
      h before entry' (after ++ [entry]) (by rw [heq, List.append_assoc, List.cons_append])
    simp only [undented, List.map_append, List.map_cons, List.map_nil, List.foldl_append,
      List.foldl_cons, List.foldl_nil] at hbefore ⊢
    rw [hbefore]
    refine step_undent scope policy fun hopen hends => ?_
    rw [isSome_foldl] at hopen
    exact h sheet entry [] rfl hopen hends

/-! ### Lines in blocks -/

/-- No block is open that was not open before lines have lost their indentation. -/
lemma isOpen_undented {sheet : List (Text × Option SheetLine)}
    (h : isOpen scope (undented sheet) = true) : isOpen scope (sheet.map Prod.snd) = true := by
  induction sheet using List.reverseRecOn with
  | nil => exact h
  | append_singleton sheet entry ih =>
    simp only [undented, isOpen, List.map_append, List.map_cons, List.map_nil, List.foldl_append,
      List.foldl_cons, List.foldl_nil] at h ih ⊢
    rw [openAfter, opens_undent, Bool.or_eq_true, Bool.and_eq_true, Bool.not_eq_true'] at h
    rw [openAfter, Bool.or_eq_true, Bool.and_eq_true, Bool.not_eq_true']
    rcases h with hopens | ⟨hopen, hends⟩
    · exact .inl hopens
    · refine .inr ⟨ih hopen, ?_⟩
      by_contra hnot
      rw [ends_of_ends scope (by simpa using hnot)] at hends
      cases hends

/-- A list around one of its entries. -/
lemma exists_append_of_getElem? {α : Type} {l : List α} {i : Nat} {a : α} (h : l[i]? = some a) :
    ∃ before after, l = before ++ a :: after ∧ i = before.length := by
  obtain ⟨hlt, rfl⟩ := List.getElem?_eq_some_iff.mp h
  exact ⟨l.take i, l.drop (i + 1), by simp, by simp [Nat.le_of_lt hlt]⟩

/-- **No line gets into a block by losing indentation.** -/
lemma enclosed_undent {sheet : List (Text × Option SheetLine)} {i : Nat}
    (hi : i < sheet.length) (h : Enclosed scope (undented sheet) i) :
    Enclosed scope (sheet.map Prod.snd) i := by
  obtain ⟨before, after, hsheet, rfl⟩ := exists_append_of_getElem? (List.getElem?_eq_getElem hi)
  generalize sheet[before.length] = entry at hsheet
  subst hsheet
  have hlength : (undented before).length = before.length := by simp [undented]
  have hlengthSnd : (before.map Prod.snd).length = before.length := List.length_map _
  have hsplit : undented (before ++ entry :: after) =
      undented before ++ entry.2.map (SheetLine.undent entry.1) :: undented after := by
    simp [undented]
  rw [hsplit, ← hlength, enclosed_iff] at h
  rw [List.map_append, List.map_cons, ← hlengthSnd, enclosed_iff]
  refine ⟨isOpen_undented scope h.1, ?_⟩
  by_contra hnot
  have hends := h.2
  rw [ends_of_ends scope (by simpa using hnot)] at hends
  cases hends

/-- A line that ends blocks belongs to none. -/
lemma not_enclosed_of_ends {lines : List (Option SheetLine)} {i : Nat} {line : Option SheetLine}
    (hline : lines[i]? = some line) (hends : ends scope line = true) :
    ¬ Enclosed scope lines i := by
  obtain ⟨before, after, rfl, rfl⟩ := exists_append_of_getElem? hline
  rw [enclosed_iff, hends]
  simp

/-- A list from which more is taken, at one place at least. -/
lemma length_filterMap_lt {α β : Type} {f g : α → Option β} {l : List α}
    (h : ∀ a ∈ l, (f a).isSome = true → (g a).isSome = true) {a : α} (ha : a ∈ l) (hf : f a = none)
    (hg : (g a).isSome = true) : (l.filterMap f).length < (l.filterMap g).length := by
  obtain ⟨s, t, rfl⟩ := List.append_of_mem ha
  have hs : s.countP (fun b => (f b).isSome) ≤ s.countP fun b => (g b).isSome :=
    List.countP_mono_left fun b hb => h b (List.mem_append_left _ hb)
  have ht : t.countP (fun b => (f b).isSome) ≤ t.countP fun b => (g b).isSome :=
    List.countP_mono_left fun b hb => h b (List.mem_append_right _ (List.mem_cons_of_mem a hb))
  simp only [List.length_filterMap_eq_countP, List.countP_append, List.countP_cons, hf, hg,
    Option.isSome_none]
  simp only [Bool.false_eq_true, if_false, if_true]
  omega

/-- **More lines are left out** if a line that is not recognised falls out of its block. -/
lemma length_leftOut_undented_lt {policy : Policy} {sheet : List (Text × Option SheetLine)}
    {i : Nat} {raw : Text} {line : SheetLine} (hentry : sheet[i]? = some (raw, some line))
    (hleft : leftOut? policy false (some line) = some line)
    (hinside : Enclosed scope (sheet.map Prod.snd) i)
    (houtside : ¬ Enclosed scope (undented sheet) i) :
    (leftOut scope policy (sheet.map Prod.snd)).length <
      (leftOut scope policy (undented sheet)).length := by
  have hlt : i < sheet.length := (List.getElem?_eq_some_iff.mp hentry).1
  have hleftOut : ∀ (enclosed : Bool) (read : Option SheetLine) (raw : Text),
      (leftOut? policy enclosed (read.map (SheetLine.undent raw))).isSome =
        (leftOut? policy enclosed read).isSome := by
    intro enclosed read raw
    rcases read with _ | ⟨number, indented, text, clause⟩
    · rfl
    · cases clause <;> cases enclosed <;> cases policy <;> rfl
  have hsame : (undented sheet).length = (sheet.map Prod.snd).length := by simp [undented]
  unfold leftOut byPosition
  rw [hsame]
  refine length_filterMap_lt (a := i) ?_ (by simpa using hlt) ?_ ?_
  · intro j hj hsome
    rw [List.length_map, List.mem_range] at hj
    rw [undented, List.getElem?_map, List.getElem?_eq_getElem hj, Option.map_some, Option.bind_some]
    rw [List.getElem?_map, List.getElem?_eq_getElem hj, Option.map_some, Option.bind_some] at hsome
    rw [hleftOut]
    -- what is left out stands in no block, and then it does not get into one
    by_cases henclosed : Enclosed scope (undented sheet) j
    · have hbefore := enclosed_undent scope hj henclosed
      rw [undented] at henclosed
      rw [decide_eq_true hbefore] at hsome
      rw [decide_eq_true henclosed]
      exact hsome
    · rw [undented] at henclosed
      rw [decide_eq_false henclosed]
      cases hread : sheet[j].2 with
      | none =>
        rw [hread] at hsome
        cases hsome
      | some other =>
        obtain ⟨number, indented, text, clause⟩ := other
        rw [hread] at hsome
        cases clause <;> cases policy <;>
          cases hbit : decide (Enclosed scope (sheet.map Prod.snd) j) <;>
            simp_all [leftOut?]
  · rw [List.getElem?_map, hentry, Option.map_some, Option.bind_some, decide_eq_true hinside]
    obtain ⟨number, indented, text, clause⟩ := line
    cases clause <;> simp [leftOut?]
  · rw [undented, List.getElem?_map, hentry, Option.map_some, Option.bind_some, hleftOut]
    rw [undented] at houtside
    rw [decide_eq_false houtside, hleft]
    rfl

end Segmentation

namespace Converter

variable (tree : FileTree) (c : Converter) (lines : List Text)

/-- What is read of a line in quotes. -/
lemma readLine_wrap (helpers : Helpers) (number : Nat) (raw : Text) (l : Lexicon) :
    readLine tree helpers number (Line.wrap raw) l =
      ((readLine tree helpers number raw l).1.map (SheetLine.undent raw),
        (readLine tree helpers number raw l).2) := by
  unfold readLine
  rw [Line.normalize_wrap, Line.isIndented_wrap]
  cases Line.normalize raw <;> rfl

/-- The lines of a sheet, each with what is read of it. -/
def sheet : List (Text × Option SheetLine) :=
  lines.zip (readLines tree c.options.helpers 1 lines c.lexicon).1

/-- What is read of lines in quotes. -/
lemma readLines_wrap (helpers : Helpers) : ∀ (number : Nat) (l : Lexicon),
    readLines tree helpers number (lines.map Line.wrap) l =
      (Segmentation.undented (lines.zip (readLines tree helpers number lines l).1),
        (readLines tree helpers number lines l).2) := by
  induction lines with
  | nil => exact fun number l => rfl
  | cons raw rest ih =>
    intro number l
    rw [List.map_cons, readLines_cons, readLine_wrap, ih, readLines_cons]
    rfl

/-- What is read of the lines of a sheet. -/
lemma map_snd_sheet :
    (c.sheet tree lines).map Prod.snd =
      (readLines tree c.options.helpers 1 lines c.lexicon).1 := by
  refine List.map_snd_zip ?_
  rw [length_readLines]

/-- A line belongs to a block by an indentation that stands behind a quote. -/
def HeldByQuote (i : Nat) : Prop :=
  ∃ raw line, (c.sheet tree lines)[i]? = some (raw, some line) ∧ Line.quotesIndent raw = true ∧
    line.isCondition = false ∧
      Segmentation.Enclosed c.options.scope
        (readLines tree c.options.helpers 1 lines c.lexicon).1 i

/-- **A sheet in quotes** is converted to the same result, if no line belongs to a block by an
indentation that stands behind a quote. -/
lemma convertBlocks_wrap (h : c.options.scope = .indented → ∀ i, ¬ c.HeldByQuote tree lines i) :
    c.convertBlocks tree (lines.map Line.wrap) = c.convertBlocks tree lines := by
  have hassembled := Segmentation.foldl_undent c.options.scope c.options.policy (c.sheet tree lines)
    (by
      intro before entry after hsheet hopen hends
      obtain ⟨raw, read⟩ := entry
      cases read with
      | none => exact hends
      | some line =>
        rw [Option.map_some, Segmentation.ends_undent, hends, Bool.false_or]
        by_contra hlost
        simp only [Bool.and_eq_true, decide_eq_true_eq, Bool.not_eq_true', Bool.not_eq_false]
          at hlost
        obtain ⟨⟨hscope, hclause⟩, hquotes⟩ := hlost
        refine h hscope before.length ⟨raw, line, by simp [hsheet], hquotes, hclause, ?_⟩
        have henclosed := (Segmentation.enclosed_iff c.options.scope (before.map Prod.snd)
          (after.map Prod.snd) (some line)).mpr ⟨hopen, hends⟩
        rw [← map_snd_sheet, hsheet]
        simpa using henclosed)
  have hpieces : Assembly.ofLines c.options.scope c.options.policy
      (Segmentation.undented (c.sheet tree lines)) =
        Assembly.ofLines c.options.scope c.options.policy ((c.sheet tree lines).map Prod.snd) := by
    rw [Assembly.ofLines, hassembled, Assembly.ofLines]
  have hblank : (Segmentation.undented (c.sheet tree lines)).countP Option.isNone =
      ((c.sheet tree lines).map Prod.snd).countP Option.isNone := by
    simp [Segmentation.undented, List.countP_map, Function.comp_def]
  rw [map_snd_sheet] at hpieces hblank
  rw [sheet] at hpieces hblank
  unfold convertBlocks
  simp only [readLines_wrap, hpieces, hblank, List.length_map]

/-- The units of a sheet have no number of a line that belongs to a block. -/
lemma line_ne_of_enclosed {i : Nat} {line : SheetLine}
    (hread : (readLines tree c.options.helpers 1 lines c.lexicon).1[i]? = some (some line))
    (hclause : line.isCondition = false)
    (hinside : Segmentation.Enclosed c.options.scope
      (readLines tree c.options.helpers 1 lines c.lexicon).1 i) :
    ∀ p ∈ c.assembled tree lines, p.line ≠ i + 1 := by
  intro p hp hline
  obtain ⟨j, -, hj⟩ := List.mem_filterMap.mp hp
  obtain ⟨read, hother, hpiece⟩ := Option.bind_eq_some_iff.mp hj
  cases read with
  | none => cases hpiece
  | some other =>
    have hnumber := (atNumber?_of_read hother).1
    rw [Segmentation.line_of_piece? _ _ hpiece, hnumber] at hline
    obtain rfl : j = i := by omega
    rw [hread] at hother
    obtain rfl : line = other := Option.some.inj (Option.some.inj hother)
    rw [decide_eq_true hinside] at hpiece
    obtain ⟨number, indented, text, clause⟩ := line
    cases clause <;> simp [SheetLine.isCondition] at hclause <;> cases hpiece

/-- The report of block mode counts the lines that are left out. -/
lemma skippedLines_convertBlocks :
    (c.convertBlocks tree lines).1.report.skippedLines =
      (Segmentation.leftOut c.options.scope c.options.policy
        (readLines tree c.options.helpers 1 lines c.lexicon).1).length := by
  rw [convertBlocks_eq_draft, Segmentation.leftOut, ← Segmentation.along_eq_byPosition]
  rfl

/-- **A sheet in quotes** is converted to another result, if a line belongs to a block by an
indentation that stands behind a quote.

**Proof sketch.** In quotes the line ends the block that it was in, so it stands alone.  Then there
is a unit under its number, which there was not before, or there is one line more that is left
out. -/
lemma convertBlocks_wrap_ne (hscope : c.options.scope = .indented) {i : Nat}
    (h : c.HeldByQuote tree lines i) :
    (c.convertBlocks tree (lines.map Line.wrap)).1 ≠ (c.convertBlocks tree lines).1 := by
  obtain ⟨raw, line, hentry, hquotes, hclause, hinside⟩ := h
  have hread : (readLines tree c.options.helpers 1 lines c.lexicon).1[i]? = some (some line) := by
    rw [← map_snd_sheet, List.getElem?_map, hentry]
    rfl
  have hwrapped : (readLines tree c.options.helpers 1 (lines.map Line.wrap) c.lexicon).1 =
      Segmentation.undented (c.sheet tree lines) := by
    rw [readLines_wrap, sheet]
  have hfallen : (Segmentation.undented (c.sheet tree lines))[i]? =
      some (some (line.undent raw)) := by
    rw [Segmentation.undented, List.getElem?_map, hentry]
    rfl
  have hends : Segmentation.ends c.options.scope (some (line.undent raw)) = true := by
    rw [Segmentation.ends_undent, hclause, hquotes, hscope]
    simp
  have houtside := Segmentation.not_enclosed_of_ends c.options.scope hfallen hends
  intro hsame
  cases hleft : Segmentation.leftOut? c.options.policy false (some line) with
  | some other =>
    have hother : other = line := by
      obtain ⟨number, indented, text, clause⟩ := line
      cases clause <;> simp [Segmentation.leftOut?] at hleft
      exact hleft.2.symm
    rw [hother] at hleft
    rw [← map_snd_sheet] at hinside
    have hcount :=
      Segmentation.length_leftOut_undented_lt c.options.scope hentry hleft hinside houtside
    have hskipped := congrArg (fun o : Output => o.report.skippedLines) hsame
    simp only [skippedLines_convertBlocks, hwrapped] at hskipped
    rw [hskipped, map_snd_sheet] at hcount
    exact Nat.lt_irrefl _ hcount
  | none =>
    -- a line that is neither part of a condition nor left out makes a piece by itself
    have hpiece : ∃ s, Segmentation.piece? c.options.scope c.options.policy false
        (some (line.undent raw)) ((Segmentation.undented (c.sheet tree lines)).drop (i + 1)) =
          some (.alone line.number s) := by
      obtain ⟨number, indented, text, clause⟩ := line
      cases hpolicy : c.options.policy <;> rw [hpolicy] at hleft <;>
        cases clause <;> simp [SheetLine.isCondition] at hclause <;>
          simp [Segmentation.leftOut?] at hleft <;>
            simp [Segmentation.piece?, Segmentation.alone?, SheetLine.undent]
    obtain ⟨s, hpiece⟩ := hpiece
    have hmem : Piece.alone line.number s ∈ c.assembled tree (lines.map Line.wrap) := by
      rw [assembled, hwrapped]
      refine List.mem_filterMap.mpr ⟨i, List.mem_range.mpr ?_, ?_⟩
      · exact (List.getElem?_eq_some_iff.mp hfallen).1
      · rw [hfallen, Option.bind_some, decide_eq_false houtside, hpiece]
    have hunits : (c.assembled tree (lines.map Line.wrap)).map Piece.line =
        (c.assembled tree lines).map Piece.line := by
      have hnew := map_units_convertBlocks tree c (lines.map Line.wrap)
      rw [hsame, map_units_convertBlocks] at hnew
      simpa [Function.comp_def] using congrArg (List.map Prod.fst) hnew.symm
    have hline : line.number ∈ (c.assembled tree lines).map Piece.line := by
      rw [← hunits]
      exact List.mem_map_of_mem hmem
    obtain ⟨p, hp, hpline⟩ := List.mem_map.mp hline
    rw [(atNumber?_of_read hread).1] at hpline
    exact line_ne_of_enclosed tree c lines hread hclause hinside p hp hpline

/-- Line mode does not look at indentation. -/
lemma convertLines_wrap :
    c.convertLines tree (lines.map Line.wrap) = c.convertLines tree lines := by
  have hown : (fun entry : Text × Option SheetLine =>
      own? c.options.policy (entry.2.map (SheetLine.undent entry.1))) =
        fun entry => own? c.options.policy entry.2 := by
    funext entry
    obtain ⟨raw, read⟩ := entry
    rcases read with _ | ⟨number, indented, text, clause⟩
    · rfl
    · cases clause <;> rfl
  have hread : (readLines tree c.options.helpers 1 lines c.lexicon).1 =
      (lines.zip (readLines tree c.options.helpers 1 lines c.lexicon).1).map Prod.snd :=
    (map_snd_sheet tree c lines).symm
  have hstatements : (Segmentation.undented (lines.zip
      (readLines tree c.options.helpers 1 lines c.lexicon).1)).filterMap (own? c.options.policy) =
        (readLines tree c.options.helpers 1 lines c.lexicon).1.filterMap
          (own? c.options.policy) := by
    rw [Segmentation.undented, List.filterMap_map]
    conv_rhs => rw [hread, List.filterMap_map]
    exact congrArg (List.filterMap · _) hown
  have hkept : ((Segmentation.undented (lines.zip
      (readLines tree c.options.helpers 1 lines c.lexicon).1)).filterMap id).length =
        ((readLines tree c.options.helpers 1 lines c.lexicon).1.filterMap id).length := by
    conv_rhs => rw [hread]
    simp [Segmentation.undented, List.length_filterMap_eq_countP]
  have hblank : (Segmentation.undented (lines.zip
      (readLines tree c.options.helpers 1 lines c.lexicon).1)).countP Option.isNone =
        (readLines tree c.options.helpers 1 lines c.lexicon).1.countP Option.isNone := by
    conv_rhs => rw [hread]
    simp [Segmentation.undented, List.countP_map, Function.comp_def]
  rw [convertLines_eq, convertLines_eq, readLines_wrap]
  simp only [hstatements, hkept, hblank, List.length_map]

/-- **Lines in one more pair of quotes.**  A line keeps its normal form, and it keeps its
indentation exactly if that does not stand behind a quote already.  Hence block mode makes the same
of a sheet whose lines are all wrapped exactly if blocks do not depend on indentation, or no line
belongs to a block by an indentation behind a quote.  Line mode always makes the same. -/
theorem convertBlocks_wrap_iff :
    (∀ raw, Line.normalize (Line.wrap raw) = Line.normalize raw ∧
      (Line.isIndented (Line.wrap raw) = Line.isIndented raw ↔ Line.quotesIndent raw = false)) ∧
    ((c.convertBlocks tree (lines.map Line.wrap)).1 = (c.convertBlocks tree lines).1 ↔
      (c.options.scope = .indented → ∀ i, ¬ c.HeldByQuote tree lines i)) ∧
    (c.convertLines tree (lines.map Line.wrap)).1 = (c.convertLines tree lines).1 := by
  refine ⟨fun raw => ⟨Line.normalize_wrap raw, Line.isIndented_wrap_iff raw⟩, ⟨?_, ?_⟩, ?_⟩
  · intro hsame hscope i hheld
    exact convertBlocks_wrap_ne tree c lines hscope hheld hsame
  · intro h
    rw [convertBlocks_wrap tree c lines h]
  · rw [convertLines_wrap tree c lines]

/-- A converter whose blocks are made of indented lines. -/
def indentingConverter : Converter :=
  ⟨{ scope := .indented }, .ofCatalog (.ofSources .empty) .empty, .empty⟩

/-- A condition over a line whose indentation stands behind a quote. -/
def quotedSheet : List Text := ["》【条件】a＝bのとき", "\" 項目「D\\区分」＝１。\""]

/-- In another pair of quotes the line falls out of its block. -/
theorem convertBlocks_wrap_quotedSheet :
    Line.isIndented "\" 項目「D\\区分」＝１。\"" = true ∧
      Line.isIndented (Line.wrap "\" 項目「D\\区分」＝１。\"") = false ∧
      (indentingConverter.convertBlocks ⟨.empty⟩ quotedSheet).1.units =
        [⟨1, .block, "if(a == b) \x7b\n    this.D区分 = 1;\n\x7d"⟩] ∧
      (indentingConverter.convertBlocks ⟨.empty⟩ (quotedSheet.map Line.wrap)).1.units =
        [⟨1, .block, "if(a == b) \x7b\n\x7d"⟩, ⟨2, .standalone, "this.D区分 = 1;"⟩] := by
  rw [units_convertBlocks, units_convertBlocks]
  decide +kernel

end Converter

end RuleSheet
