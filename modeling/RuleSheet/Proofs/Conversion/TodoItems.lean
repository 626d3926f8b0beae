import RuleSheet.Proofs.Conversion.Account

/-!
# Lines left to do by hand

The report lists every line that is left to do by hand, with a number.  The text of an item is
always that of a line of the sheet.  The number is that of the same line if the item stands alone;
if it stands in a block, the number is that of the condition, and never that of the line.

## Main definitions

* `RuleSheet.Clause.Keeps` — what a clause keeps to be done by hand is a given line.
* `RuleSheet.TodoItem.ComesFrom` — the line that an item of the report comes from.

## Main results

* `RuleSheet.keeps_classify` — a line that cannot be converted is kept as it is.
* `RuleSheet.Segmentation.exists_of_mem_extent` — no condition starts between the condition of a
  block and a line of the block.
* `RuleSheet.Converter.run_todos_iff` — the number of an item is that of its line if and only if the
  item stands in no block.
-/

set_option autoImplicit false

namespace RuleSheet

open Text

/-! ### What a line keeps -/

/-- What a clause keeps to be done by hand is the line. -/
def Clause.Keeps (line : Text) : Clause → Prop
  | .statement s => ∀ kept ∈ s.todoLine?, kept = line
  | .unrecognized text => text = line
  | .opening _ => True
  | .continuation _ _ => True

/-- **A line that cannot be converted is kept as it is**, whatever the reason. -/
lemma keeps_classify (tree : FileTree) (helpers : Helpers) (line : Text) (l : Lexicon) :
    (classify tree helpers line l).1.Keeps line := by
  unfold classify
  rcases recognize line with _ | ⟨name, s⟩
  · rfl
  · have houtcome := s.outcome_clause tree helpers line l
    dsimp only
    generalize (s.clause tree helpers line l).1 = made at houtcome
    cases houtcome with
    | opening _ => trivial
    | continuation _ => trivial
    | made h =>
      intro kept hkept
      rw [h] at hkept
      cases hkept
    | unsupported _ => exact fun kept hkept => (Option.some.inj hkept).symm
    | missed _ _ _ => exact fun kept hkept => (Option.some.inj hkept).symm

/-! ### The lines of a block -/

namespace Segmentation

/-- Nothing is put in place of what is repeated. -/
lemma mem_of_mem_unrepeated {ss : List Statement} {s : Statement} (h : s ∈ unrepeated ss) :
    s ∈ ss := by
  obtain ⟨i, -, hi⟩ := List.mem_filterMap.mp h
  exact List.mem_of_getElem? (Option.filter_eq_some_iff.mp hi).1

/-- **No condition starts between the condition of a block and a line of the block.**

**Proof sketch.** Induction on the lines after the condition.  The first of them belongs to the
block only if it does not end it, and the start of a condition would. -/
lemma exists_of_mem_extent {scope : BlockScope} {after : List (Option SheetLine)}
    {member : Option SheetLine} (h : member ∈ extent scope after) :
    ∃ k : Nat, after[k]? = some member ∧
      ∀ j ≤ k, ∀ line, after[j]? = some line → opens line = false := by
  induction after with
  | nil => cases h
  | cons first rest ih =>
    unfold extent at h ih
    cases hends : ends scope first with
    | true => simp [hends] at h
    | false =>
      have hfirst : opens first = false := by
        cases hopens : opens first with
        | false => rfl
        | true =>
          rw [ends_of_opens scope hopens] at hends
          cases hends
      rw [List.takeWhile_cons_of_pos (by simp [hends])] at h
      rcases List.mem_cons.mp h with rfl | h
      · refine ⟨0, rfl, fun j hj line hline => ?_⟩
        obtain rfl : j = 0 := by omega
        rw [← Option.some.inj hline]
        exact hfirst
      · obtain ⟨k, hk, hbefore⟩ := ih h
        refine ⟨k + 1, hk, fun j hj line hline => ?_⟩
        cases j with
        | zero =>
          rw [← Option.some.inj hline]
          exact hfirst
        | succ j => exact hbefore j (by omega) line hline

/-- The statement that a line adds to a block keeps at most the text of the line. -/
lemma keeps_statement? {line : SheetLine} (h : line.clause.Keeps line.text) {s : Statement}
    (hs : statement? (some line) = some s) : ∀ kept ∈ s.todoLine?, kept = line.text := by
  obtain ⟨number, indented, text, clause⟩ := line
  cases clause with
  | opening part => cases hs
  | continuation connective part => cases hs
  | statement st =>
    obtain rfl := Option.some.inj hs
    exact h
  | unrecognized other =>
    obtain rfl := Option.some.inj hs
    intro kept hkept
    rw [← (Option.some.inj hkept)]
    exact h

/-- The statement of a line that stands alone keeps at most the text of the line. -/
lemma keeps_alone? {policy : Policy} {line : SheetLine} (h : line.clause.Keeps line.text)
    {number : Nat} {s : Statement} (hs : alone? policy line = some (.alone number s)) :
    ∀ kept ∈ s.todoLine?, kept = line.text := by
  obtain ⟨number', indented, text, clause⟩ := line
  cases clause with
  | opening part => cases hs
  | continuation connective part =>
    obtain ⟨-, rfl⟩ := Piece.alone.inj (Option.some.inj hs)
    intro kept hkept
    exact (Option.some.inj hkept).symm
  | statement st =>
    obtain ⟨-, rfl⟩ := Piece.alone.inj (Option.some.inj hs)
    exact h
  | unrecognized other =>
    cases policy with
    | skip => cases hs
    | todo =>
      obtain ⟨-, rfl⟩ := Piece.alone.inj (Option.some.inj hs)
      intro kept hkept
      rw [← (Option.some.inj hkept)]
      exact h

end Segmentation

/-! ### Items of the report -/

/-- The line that an item of the report comes from: it has the text of the item, and no condition
starts between the number of the item and that line. -/
structure TodoItem.ComesFrom (lines : List Text) (t : TodoItem) (number : Nat) : Prop where
  /-- The text of the item is that of the line. -/
  kept : Line.atNumber? lines number = some t.kept
  /-- The line does not stand before the number of the item. -/
  not_before : t.line ≤ number
  /-- No condition starts in between. -/
  between : ∀ k, t.line < k → k ≤ number → Line.opensAt lines k = false

namespace Converter

variable {tree : FileTree}

/-- An item of a statement has its number and the text that it keeps. -/
lemma of_mem_todoItems {line : Nat} {s : Statement} {t : TodoItem} (h : t ∈ todoItems line s) :
    t.line = line ∧ t.kept ∈ s.todoLine? := by
  cases s with
  | todo kept reason =>
    obtain rfl := List.mem_singleton.mp h
    exact ⟨rfl, rfl⟩
  | setField setter value label => cases h
  | setVariable name value => cases h
  | setFlag name value => cases h

/-- The items of a piece have its number. -/
lemma line_of_mem_todos {p : Piece} {t : TodoItem} (h : t ∈ p.todos) : t.line = p.line := by
  cases p with
  | block b =>
    obtain ⟨s, -, hitem⟩ := List.mem_flatMap.mp h
    exact (of_mem_todoItems hitem).1
  | alone line s => exact (of_mem_todoItems h).1

/-- A line that was read keeps at most its text. -/
lemma keeps_read {helpers : Helpers} {lines : List Text} {l : Lexicon} {i : Nat} {line : SheetLine}
    (h : (readLines tree helpers 1 lines l).1[i]? = some (some line)) :
    line.clause.Keeps line.text := by
  obtain ⟨-, -, l', hclause⟩ := atNumber?_of_read h
  rw [hclause]
  exact keeps_classify tree helpers line.text l'

/-- **The items of a block** stand under the number of its condition and come from its lines. -/
lemma comesFrom_block {c : Converter} {lines : List Text} {i : Nat} {line : SheetLine}
    (hline : (readLines tree c.options.helpers 1 lines c.lexicon).1[i]? = some (some line))
    {part : Comparison} {t : TodoItem}
    (ht : t ∈ (Piece.block (Segmentation.blockOf line.number part
      (Segmentation.extent c.options.scope
        ((readLines tree c.options.helpers 1 lines c.lexicon).1.drop (i + 1))))).todos) :
    t.line = i + 1 ∧ ∃ number, t.line < number ∧ t.ComesFrom lines number := by
  obtain ⟨s, hs, hitem⟩ := List.mem_flatMap.mp ht
  obtain ⟨htline, hkept⟩ := of_mem_todoItems hitem
  have hnumber : t.line = i + 1 := htline.trans (atNumber?_of_read hline).1
  obtain ⟨member, hmember, hstatement⟩ :=
    List.mem_filterMap.mp (Segmentation.mem_of_mem_unrepeated hs)
  obtain ⟨k, hk, hbefore⟩ := Segmentation.exists_of_mem_extent hmember
  rw [List.getElem?_drop] at hk
  cases member with
  | none => cases hstatement
  | some inner =>
    have htext := Segmentation.keeps_statement? (keeps_read hk) hstatement t.kept hkept
    refine ⟨hnumber, i + 1 + k + 1, by omega, ⟨?_, by omega, fun n hn hle => ?_⟩⟩
    · rw [htext]
      exact (atNumber?_of_read hk).2.1
    · -- the line `n` is one of the lines after the condition
      obtain ⟨j, rfl⟩ : ∃ j, n = i + 1 + j + 1 := ⟨n - (i + 1) - 1, by omega⟩
      have hlt : i + 1 + k < (readLines tree c.options.helpers 1 lines c.lexicon).1.length :=
        (List.getElem?_eq_some_iff.mp hk).1
      have hj : (readLines tree c.options.helpers 1 lines c.lexicon).1[i + 1 + j]? = some _ :=
        List.getElem?_eq_getElem (by omega)
      rw [← opens_eq_opensAt hj]
      exact hbefore j (by omega) _ (by rw [List.getElem?_drop, hj])

/-- **The item of a line that stands alone** has the number and the text of that line. -/
lemma comesFrom_alone {c : Converter} {lines : List Text} {i : Nat} {line : SheetLine}
    (hline : (readLines tree c.options.helpers 1 lines c.lexicon).1[i]? = some (some line))
    {s : Statement} (hs : ∀ kept ∈ s.todoLine?, kept = line.text) {t : TodoItem}
    (ht : t ∈ todoItems line.number s) : t.line = i + 1 ∧ t.ComesFrom lines t.line := by
  obtain ⟨htline, hkept⟩ := of_mem_todoItems ht
  obtain ⟨hnumber, htext, -⟩ := atNumber?_of_read hline
  have hsame : t.line = i + 1 := htline.trans hnumber
  refine ⟨hsame, ⟨?_, le_rfl, fun k hk hle => by omega⟩⟩
  rw [hsame, htext, hs t.kept hkept]

/-- An item of block mode stands alone, or in the block of the condition that it is reported
under. -/
lemma comesFrom_of_mem_assembled {c : Converter} {lines : List Text} {p : Piece}
    (hp : p ∈ c.assembled tree lines) {t : TodoItem} (ht : t ∈ p.todos) :
    (Line.opensAt lines t.line = false ∧ t.ComesFrom lines t.line) ∨
      (Line.opensAt lines t.line = true ∧
        ∃ number, t.line < number ∧ t.ComesFrom lines number) := by
  obtain ⟨i, line, hline, enclosed, hpiece⟩ := mem_assembled hp
  have hopens := opens_eq_opensAt hline
  rcases Segmentation.piece?_eq_some hpiece with ⟨part, hclause, rfl⟩ | ⟨hplain, s, rfl, halone⟩
  · right
    obtain ⟨hnumber, hfrom⟩ := comesFrom_block hline ht
    refine ⟨?_, hfrom⟩
    rw [hnumber, ← hopens]
    simp [Segmentation.opens, hclause]
  · left
    have hkeeps := Segmentation.keeps_alone? (keeps_read hline) halone
    obtain ⟨hnumber, hfrom⟩ := comesFrom_alone hline hkeeps ht
    refine ⟨?_, hfrom⟩
    rw [hnumber, ← hopens]
    exact hplain

/-- An item of line mode has the number and the text of its line. -/
lemma comesFrom_of_mem_convertLines {c : Converter} {lines : List Text} {t : TodoItem}
    (ht : t ∈ (c.convertLines tree lines).1.report.todos) :
    1 ≤ t.line ∧ t.line ≤ lines.length ∧ t.ComesFrom lines t.line := by
  rw [convertLines_eq] at ht
  obtain ⟨w, hw, hitem⟩ := List.mem_flatMap.mp ht
  obtain ⟨⟨number, s⟩, hentry, rfl⟩ := List.mem_map.mp hw
  obtain ⟨read, hread, hown⟩ := List.mem_filterMap.mp hentry
  obtain ⟨i, hi⟩ := List.mem_iff_getElem?.mp hread
  cases read with
  | none => cases hown
  | some line =>
    have hlen : i < lines.length := by
      rw [← length_readLines tree c.options.helpers lines 1 c.lexicon]
      exact (List.getElem?_eq_some_iff.mp hi).1
    obtain ⟨s', hs', heq⟩ := Option.map_eq_some_iff.mp hown
    obtain ⟨rfl, rfl⟩ := Prod.mk.inj heq
    have hkeeps : ∀ kept ∈ s'.todoLine?, kept = line.text := by
      have hclause := keeps_read hi
      unfold lineStatement? at hs'
      split at hs'
      next s hs =>
        obtain rfl := Option.some.inj hs'
        rw [hs] at hclause
        exact hclause
      next =>
        split at hs'
        next =>
          obtain rfl := Option.some.inj hs'
          exact fun kept hkept => (Option.some.inj hkept).symm
        next => cases hs'
    obtain ⟨hnumber, hfrom⟩ := comesFrom_alone hi hkeeps hitem
    exact ⟨by omega, by omega, hfrom⟩

/-- **Where the items of the report come from.**  The number of an item is that of a line of the
sheet.  It is the number of the line with the text of the item in line mode, and in block mode if
and only if no condition starts there.  The items of a block stand under the number of its
condition: their own lines follow it, with no other condition in between.

**Proof sketch.** An item of a block cannot have the number of its own line, even by chance: its
line starts no condition, and the line that it is reported under does. -/
theorem run_todos_iff (tree : FileTree) (c : Converter) (lines : List Text) :
    ∀ t ∈ (c.run tree lines).1.report.todos,
      1 ≤ t.line ∧ t.line ≤ lines.length ∧
      (Line.atNumber? lines t.line = some t.kept ↔
        c.options.mode = .line ∨ Line.opensAt lines t.line = false) ∧
      ∃ number, t.ComesFrom lines number := by
  intro t ht
  unfold run at ht
  cases hmode : c.options.mode with
  | line =>
    rw [hmode] at ht
    obtain ⟨hfirst, hlast, hfrom⟩ := comesFrom_of_mem_convertLines ht
    exact ⟨hfirst, hlast, ⟨fun _ => Or.inl rfl, fun _ => hfrom.kept⟩, t.line, hfrom⟩
  | block =>
    rw [hmode] at ht
    rw [convertBlocks_eq_draft, output, written_draft, (units_writePieces tree c.options c.defined
      (c.assembled tree lines) _).2] at ht
    obtain ⟨p, hp, hitem⟩ := List.mem_flatMap.mp ht
    have hline := line_of_mem_assembled hp
    rw [← line_of_mem_todos hitem] at hline
    rcases comesFrom_of_mem_assembled hp hitem with ⟨hopens, hfrom⟩ | ⟨hopens, number, hlt, hfrom⟩
    · exact ⟨hline.1, hline.2, ⟨fun _ => Or.inr hopens, fun _ => hfrom.kept⟩, t.line, hfrom⟩
    · have hother : Line.atNumber? lines t.line ≠ some t.kept := by
        intro hsame
        have hnumber := hfrom.between number hlt le_rfl
        rw [Line.opensAt, hfrom.kept, ← hsame, ← Line.opensAt, hopens] at hnumber
        cases hnumber
      refine ⟨hline.1, hline.2, ⟨fun hsame => absurd hsame hother, ?_⟩, number, hfrom⟩
      rintro (habsurd | hclosed)
      · cases habsurd
      · rw [hopens] at hclosed
        cases hclosed

/-- A line with an entity that has no file, and a condition over a line that is not recognised. -/
def guardedSheet : List Text := ["項目「B.(色)」＝３。", "》【条件】a＝bのとき", "abc"]

/-- The items of the sheet: the first stands under the number of its line, the second under that of
the condition. -/
theorem run_todos_guardedSheet :
    let todos := (hueConverter.run hueFiles guardedSheet).1.report.todos
    (⟨1, "項目「B.(色)」＝３。", "ENTITY_NOT_FOUND", "entity not found: B"⟩ : TodoItem) ∈ todos ∧
      Line.opensAt guardedSheet 1 = false ∧
      Line.atNumber? guardedSheet 1 = some ("項目「B.(色)」＝３。" : Text) ∧
      (⟨2, "abc", "PATTERN_MISMATCH", "unrecognized pattern: abc"⟩ : TodoItem) ∈ todos ∧
      Line.opensAt guardedSheet 2 = true ∧
      Line.atNumber? guardedSheet 2 ≠ some ("abc" : Text) := by
  intro todos
  have htodos : todos = (hueConverter.draft hueFiles guardedSheet).written.flatMap (·.todos) := by
    show (hueConverter.convertBlocks hueFiles guardedSheet).1.report.todos = _
    rw [convertBlocks_eq_draft]
    rfl
  have halone : (⟨1, "項目「B.(色)」＝３。", "ENTITY_NOT_FOUND", "entity not found: B"⟩ : TodoItem) ∈
      todos := by
    rw [htodos]
    decide +kernel
  have hblock : (⟨2, "abc", "PATTERN_MISMATCH", "unrecognized pattern: abc"⟩ : TodoItem) ∈
      todos := by
    rw [htodos]
    decide +kernel
  have hfirst : Line.opensAt guardedSheet 1 = false := by decide +kernel
  have hsecond : Line.opensAt guardedSheet 2 = true := by decide +kernel
  refine ⟨halone, hfirst, ?_, hblock, hsecond, fun hsame => ?_⟩
  · exact (run_todos_iff hueFiles hueConverter guardedSheet _ halone).2.2.1.mpr (Or.inr hfirst)
  · rcases (run_todos_iff hueFiles hueConverter guardedSheet _ hblock).2.2.1.mp hsame with
      habsurd | hclosed
    · cases habsurd
    · rw [hsecond] at hclosed
      cases hclosed

/-- A line that is not recognised, in a block, is reported under the number of the condition. -/
theorem run_todos_guardedLine :
    (hueConverter.run hueFiles ["》【条件】a＝bのとき", "abc"]).1.report.todos =
        [⟨1, "abc", "PATTERN_MISMATCH", "unrecognized pattern: abc"⟩] ∧
      Line.atNumber? ["》【条件】a＝bのとき", "abc"] 1 ≠ some ("abc" : Text) ∧
      Line.atNumber? ["》【条件】a＝bのとき", "abc"] 2 = some ("abc" : Text) := by
  decide +kernel

end Converter

end RuleSheet
