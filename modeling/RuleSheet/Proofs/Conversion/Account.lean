import RuleSheet.Proofs.Conversion.Composition

/-!
# What the report accounts for

The counters of a report are filled in three passes: when lines are read, when pieces are assembled,
and when code is written.  This module follows every line through the passes and shows that the
counters agree with the sheet and with the units.

## Main definitions

* `RuleSheet.Line.atNumber?`, `opensAt` — the normal form of the line with a number, and whether it
  starts a condition.
* `RuleSheet.Piece.kind`, `Piece.todos` — what the report says about a piece.
* `RuleSheet.Output.AccountsFor` — a result of block mode accounts for all lines of a sheet.

## Main results

* `RuleSheet.comparison_of_classify` — what a line adds to a condition.
* `RuleSheet.Converter.atNumber?_of_read`, `opens_eq_opensAt` — a line that was read is the line
  with its number, and it starts a condition if that line has the opening mark.
* `RuleSheet.Segmentation.piece?_eq_some` — what a piece can be.
* `RuleSheet.Converter.mem_assembled` — every piece of a sheet starts with one of its lines.
* `RuleSheet.Converter.code_ne_nil_of_mem_writePieces` — no unit is without code.
* `RuleSheet.Converter.accountsFor_lines` — the report accounts for every line.

## Design

Lines are followed by their positions: position `i` of what was read is line `i + 1` of the sheet,
and `Segmentation.byPosition` says which pieces start there.  The lexicon, which the passes hand on,
decides about the code only, so nothing is said about it here.
-/

set_option autoImplicit false

namespace RuleSheet

open Text

/-! ### Lines by their numbers -/

/-- The normal form of the line with a number, counted from one.  A blank line has none. -/
def Line.atNumber? (lines : List Text) : Nat → Option Text
  | 0 => none
  | i + 1 => lines[i]?.bind normalize

/-- Whether the line with a number starts a condition. -/
def Line.opensAt (lines : List Text) (number : Nat) : Bool :=
  (atNumber? lines number).any fun text => openingMark <+: text

/-- **A sentence that is part of a condition** is the comparison behind its mark. -/
lemma Sentence.comparison_of_isCondition {line name : Text} {s : Sentence}
    (h : recognize line = some (name, s)) (hs : s.isCondition = true) :
    (∃ rest, line = openingMark ++ rest ∧ s = .opening (comparison rest)) ∨
      ∃ mark rest connective, line = mark ++ rest ∧
        s = .continuation connective (comparison rest) := by
  obtain ⟨rule, hmem, hrule⟩ := List.exists_of_findSome?_eq_some h
  obtain ⟨found, hfound, heq⟩ := Option.map_eq_some_iff.mp hrule
  obtain rfl : found = s := (Prod.mk.inj heq).2
  rw [← List.take_append_drop 2 rules, List.mem_append] at hmem
  rcases hmem with hmem | hmem
  · simp only [rules, List.take_succ_cons, List.take_zero, List.mem_cons, List.not_mem_nil,
      or_false] at hmem
    rcases hmem with rfl | rfl
    · obtain ⟨rest, hrest, rfl⟩ := Option.map_eq_some_iff.mp hfound
      exact Or.inl ⟨rest, (after?_eq_some_iff _ _ _).mp hrest, rfl⟩
    · right
      simp only [continuation?] at hfound
      split at hfound
      next rest hrest =>
        obtain rfl := Option.some.inj hfound
        exact ⟨_, rest, _, (after?_eq_some_iff _ _ _).mp hrest, rfl⟩
      next =>
        obtain ⟨rest, hrest, rfl⟩ := Option.map_eq_some_iff.mp hfound
        exact ⟨_, rest, _, (after?_eq_some_iff _ _ _).mp hrest, rfl⟩
  · rw [not_isCondition_of_apply hmem hfound] at hs
    cases hs

/-- What a line adds to a condition is the comparison behind its mark. -/
lemma comparison_of_classify {tree : FileTree} {helpers : Helpers} {text : Text} {l : Lexicon}
    {part : Comparison} :
    ((classify tree helpers text l).1 = .opening part →
        ∃ rest, text = openingMark ++ rest ∧ part = Sentence.comparison rest) ∧
      ∀ connective, (classify tree helpers text l).1 = .continuation connective part →
        ∃ mark rest, text = mark ++ rest ∧ part = Sentence.comparison rest := by
  unfold classify
  rcases hfound : recognize text with _ | ⟨name, s⟩
  · exact ⟨fun h => (by cases h), fun connective h => by cases h⟩
  · dsimp only
    cases hs : s.isCondition with
    | false =>
      obtain ⟨st, hst⟩ := s.clause_statement hs tree helpers text l
      rw [hst]
      exact ⟨fun h => (by cases h), fun connective h => by cases h⟩
    | true =>
      rcases Sentence.comparison_of_isCondition hfound hs with
        ⟨rest, htext, rfl⟩ | ⟨mark, rest, other, htext, rfl⟩
      · exact ⟨fun h => ⟨rest, htext, (Clause.opening.inj h).symm⟩, fun connective h => by cases h⟩
      · exact ⟨fun h => (by cases h),
          fun connective h => ⟨mark, rest, htext, (Clause.continuation.inj h).2.symm⟩⟩

namespace Converter

variable {tree : FileTree} {helpers : Helpers} {lines : List Text} {l : Lexicon}

/-- Every line is read. -/
lemma length_readLines (tree : FileTree) (helpers : Helpers) (lines : List Text) :
    ∀ (number : Nat) (l : Lexicon),
      (readLines tree helpers number lines l).1.length = lines.length := by
  induction lines with
  | nil => exact fun number l => rfl
  | cons raw rest ih =>
    intro number l
    rw [readLines_cons, List.length_cons, List.length_cons, ih]

/-- What was read at a position comes from the raw line there, under its number. -/
lemma exists_of_getElem?_readLines {read : Option SheetLine} : ∀ {i number : Nat} {l : Lexicon},
    (readLines tree helpers number lines l).1[i]? = some read →
      ∃ raw l', lines[i]? = some raw ∧ read = (readLine tree helpers (number + i) raw l').1 := by
  induction lines with
  | nil => exact fun h => by simp [readLines] at h
  | cons raw rest ih =>
    intro i number l h
    rw [readLines_cons] at h
    cases i with
    | zero => exact ⟨raw, l, rfl, (Option.some.inj h).symm⟩
    | succ i =>
      obtain ⟨raw', l', hraw, hread⟩ := ih h
      exact ⟨raw', l', hraw, by rw [hread, Nat.add_assoc, Nat.add_comm 1]⟩

/-- **A line that was read** is the line with its number, in normal form, and its clause is that of
its text. -/
lemma atNumber?_of_read {i : Nat} {line : SheetLine}
    (h : (readLines tree helpers 1 lines l).1[i]? = some (some line)) :
    line.number = i + 1 ∧ Line.atNumber? lines (i + 1) = some line.text ∧
      ∃ l', line.clause = (classify tree helpers line.text l').1 := by
  obtain ⟨raw, l', hraw, hline⟩ := exists_of_getElem?_readLines h
  have hbind : Line.atNumber? lines (i + 1) = Line.normalize raw := by
    rw [Line.atNumber?, hraw, Option.bind_some]
  rw [hbind]
  unfold readLine at hline
  cases hnormal : Line.normalize raw with
  | none =>
    rw [hnormal] at hline
    cases hline
  | some text =>
    rw [hnormal] at hline
    obtain rfl := Option.some.inj hline
    exact ⟨Nat.add_comm 1 i, rfl, l', rfl⟩

/-- **A line starts a condition** if its normal form has the opening mark. -/
lemma opens_eq_opensAt {i : Nat} {read : Option SheetLine}
    (h : (readLines tree helpers 1 lines l).1[i]? = some read) :
    Segmentation.opens read = Line.opensAt lines (i + 1) := by
  obtain ⟨raw, l', hraw, rfl⟩ := exists_of_getElem?_readLines h
  rw [Line.opensAt, Line.atNumber?, hraw, Option.bind_some]
  unfold readLine
  cases hnormal : Line.normalize raw with
  | none => rfl
  | some text =>
    rw [Option.any_some]
    by_cases hmark : openingMark <+: text
    · obtain ⟨part, hpart⟩ := classify_opening hmark
      simp [hmark, hpart, Segmentation.opens]
    · simp only [hmark, decide_false, Segmentation.opens]
      split
      next part hpart =>
        obtain ⟨rest, htext, -⟩ := comparison_of_classify.1 hpart
        exact absurd ⟨rest, htext.symm⟩ hmark
      next => rfl

/-- Blank lines are those without a normal form. -/
lemma countP_isNone_readLines (tree : FileTree) (helpers : Helpers) (lines : List Text) :
    ∀ (number : Nat) (l : Lexicon),
      (readLines tree helpers number lines l).1.countP Option.isNone =
        lines.countP fun raw => (Line.normalize raw).isNone := by
  induction lines with
  | nil => exact fun number l => rfl
  | cons raw rest ih =>
    intro number l
    have hfirst : (readLine tree helpers number raw l).1.isNone = (Line.normalize raw).isNone := by
      unfold readLine
      cases Line.normalize raw <;> rfl
    rw [readLines_cons, List.countP_cons, List.countP_cons, ih, hfirst]

/-! ### Pieces by their lines -/

end Converter

/-- The kind of the unit that a piece becomes. -/
def Piece.kind : Piece → UnitKind
  | .block _ => .block
  | .alone _ s => if s.isTodo then .todo else .standalone

/-- The lines that a piece leaves to do by hand. -/
def Piece.todos : Piece → List TodoItem
  | .block b => b.statements.flatMap (Converter.todoItems b.line)
  | .alone line s => Converter.todoItems line s

/-- **The piece that starts with a line** is the block of the condition that the line starts, or the
line by itself. -/
lemma Segmentation.piece?_eq_some {scope : BlockScope} {policy : Policy} {enclosed : Bool}
    {line : SheetLine} {after : List (Option SheetLine)} {p : Piece}
    (h : piece? scope policy enclosed (some line) after = some p) :
    (∃ part, line.clause = .opening part ∧
        p = .block (blockOf line.number part (extent scope after))) ∨
      (opens (some line) = false ∧
        ∃ s, p = .alone line.number s ∧ alone? policy line = some (.alone line.number s)) := by
  obtain ⟨number, indented, text, clause⟩ := line
  cases clause with
  | opening part => exact Or.inl ⟨part, rfl, (Option.some.inj h).symm⟩
  | continuation connective part =>
    cases enclosed with
    | true => cases h
    | false => exact Or.inr ⟨rfl, _, (Option.some.inj h).symm, rfl⟩
  | statement s =>
    cases enclosed with
    | true => cases h
    | false => exact Or.inr ⟨rfl, _, (Option.some.inj h).symm, rfl⟩
  | unrecognized text =>
    cases enclosed with
    | true => cases h
    | false =>
      cases policy with
      | skip => cases h
      | todo => exact Or.inr ⟨rfl, _, (Option.some.inj h).symm, rfl⟩

namespace Converter

variable {tree : FileTree}

/-- The pieces of a sheet. -/
def assembled (tree : FileTree) (c : Converter) (lines : List Text) : List Piece :=
  Segmentation.pieces c.options.scope c.options.policy
    (readLines tree c.options.helpers 1 lines c.lexicon).1

/-- **Every piece of a sheet starts with one of its lines.** -/
lemma mem_assembled {c : Converter} {lines : List Text} {p : Piece}
    (h : p ∈ c.assembled tree lines) :
    ∃ i line, (readLines tree c.options.helpers 1 lines c.lexicon).1[i]? = some (some line) ∧
      ∃ enclosed, Segmentation.piece? c.options.scope c.options.policy enclosed (some line)
        ((readLines tree c.options.helpers 1 lines c.lexicon).1.drop (i + 1)) = some p := by
  obtain ⟨i, -, hi⟩ := List.mem_filterMap.mp h
  obtain ⟨read, hread, hp⟩ := Option.bind_eq_some_iff.mp hi
  cases read with
  | none => cases hp
  | some line => exact ⟨i, line, hread, _, hp⟩

/-- The number of a piece is that of a line of the sheet. -/
lemma line_of_mem_assembled {c : Converter} {lines : List Text} {p : Piece}
    (h : p ∈ c.assembled tree lines) : 1 ≤ p.line ∧ p.line ≤ lines.length := by
  obtain ⟨i, line, hread, enclosed, hp⟩ := mem_assembled h
  have hlt : i < lines.length := by
    have hlen := length_readLines tree c.options.helpers lines 1 c.lexicon
    rw [← hlen]
    exact (List.getElem?_eq_some_iff.mp hread).1
  rw [Segmentation.line_of_piece? _ _ hp, (atNumber?_of_read hread).1]
  omega

/-- The pieces of a sheet are in the order of their lines. -/
lemma assembled_sorted (tree : FileTree) (c : Converter) (lines : List Text) :
    (c.assembled tree lines).Pairwise fun p q => p.line < q.line :=
  Segmentation.pieces_sorted _ _ _ (readLines_ascending tree c.options.helpers lines 1 c.lexicon)

end Converter

/-- A line makes a block if it starts a condition. -/
lemma Segmentation.block_of_piece? (scope : BlockScope) (policy : Policy) (enclosed : Bool)
    (read : Option SheetLine) (after : List (Option SheetLine)) :
    ((piece? scope policy enclosed read after).filter fun p => p.kind = .block).map Piece.line =
      if opens read then read.map SheetLine.number else none := by
  cases read with
  | none => rfl
  | some line =>
    obtain ⟨number, indented, text, clause⟩ := line
    cases clause with
    | opening part => rfl
    | continuation connective part => cases enclosed <;> rfl
    | statement s =>
      cases enclosed with
      | true => rfl
      | false => cases h : s.isTodo <;> simp [piece?, alone?, Piece.kind, opens, h]
    | unrecognized text => cases enclosed <;> cases policy <;> rfl

namespace Converter

/-- **The blocks of a sheet** are those of the lines with the opening mark. -/
lemma blocks_assembled (tree : FileTree) (c : Converter) (lines : List Text) :
    ((c.assembled tree lines).filter fun p => p.kind = .block).map Piece.line =
      (List.range' 1 lines.length).filter (Line.opensAt lines) := by
  have hlen := length_readLines tree c.options.helpers lines 1 c.lexicon
  rw [assembled, Segmentation.pieces, Segmentation.byPosition, List.filter_filterMap,
    List.map_filterMap, hlen, List.range'_eq_map_range, List.filter_map, ← List.filterMap_eq_filter,
    List.map_filterMap]
  refine List.filterMap_congr fun i hi => ?_
  obtain ⟨read, hread⟩ :
      ∃ read, (readLines tree c.options.helpers 1 lines c.lexicon).1[i]? = some read :=
    ⟨_, List.getElem?_eq_getElem (by rw [hlen]; exact List.mem_range.mp hi)⟩
  have hopens := opens_eq_opensAt hread
  rw [hread, Option.bind_some, Segmentation.block_of_piece?]
  cases read with
  | none =>
    have hclosed : Line.opensAt lines (1 + i) = false := by rw [Nat.add_comm, ← hopens]; rfl
    simp [Segmentation.opens, Option.guard, hclosed]
  | some line =>
    rw [hopens, Option.map_some, (atNumber?_of_read hread).1, Nat.add_comm i 1]
    cases h : Line.opensAt lines (1 + i) <;> simp [Option.guard, h]

/-! ### Units -/

/-- A piece becomes a unit of its kind, under its number. -/
lemma unit_writePiece (tree : FileTree) (options : Options) (defined : Variables) (p : Piece)
    (l : Lexicon) : (writePiece tree options defined p l).1.unit.line = p.line ∧
      (writePiece tree options defined p l).1.unit.kind = p.kind ∧
      (writePiece tree options defined p l).1.todos = p.todos := by
  cases p <;> exact ⟨rfl, rfl, rfl⟩

/-- Pieces become units of their kinds, under their numbers. -/
lemma units_writePieces (tree : FileTree) (options : Options) (defined : Variables)
    (pieces : List Piece) : ∀ l : Lexicon,
    ((writePieces tree options defined pieces l).1.map fun w => (w.unit.line, w.unit.kind)) =
        (pieces.map fun p => (p.line, p.kind)) ∧
      (writePieces tree options defined pieces l).1.flatMap (·.todos) =
        pieces.flatMap Piece.todos := by
  induction pieces with
  | nil => exact fun l => ⟨rfl, rfl⟩
  | cons p rest ih =>
    intro l
    obtain ⟨hline, hkind, htodos⟩ := unit_writePiece tree options defined p l
    obtain ⟨hunits, hall⟩ := ih (writePiece tree options defined p l).2
    rw [writePieces_cons]
    constructor
    · rw [List.map_cons, List.map_cons, hunits, hline, hkind]
    · rw [List.flatMap_cons, List.flatMap_cons, hall, htodos]

/-- A statement has code: its last mark is never missing. -/
lemma code_ne_nil (fieldComments : Bool) (s : Statement) : s.code fieldComments ≠ [] := by
  have hmark : (";" : Text) ≠ [] := by decide
  cases s with
  | setField setter value label =>
    have hcall : setter ++ ("(" : Text) ++ value ++ (");" : Text) ≠ [] :=
      List.append_ne_nil_of_right_ne_nil _ (by decide)
    cases label with
    | none => exact hcall
    | some label =>
      cases fieldComments with
      | false => exact hcall
      | true => exact List.append_ne_nil_of_right_ne_nil _ hcall
  | setVariable name value => exact List.append_ne_nil_of_right_ne_nil _ hmark
  | setFlag name value => exact List.append_ne_nil_of_right_ne_nil _ hmark
  | todo kept reason =>
    have hstart : ("//TODO: " : Text) ++ kept ≠ [] :=
      List.append_ne_nil_of_left_ne_nil (by decide) kept
    show todoCode kept reason ≠ []
    unfold todoCode
    split
    · exact hstart
    · exact List.append_ne_nil_of_right_ne_nil _ (by decide)

/-- Processing leaves no unit without code. -/
lemma process_ne_nil (k : Guard.Knowledge) {code : Text} (h : code ≠ []) :
    (Guard.process k code).code ≠ [] := by
  unfold Guard.process
  split
  next => exact h
  next head body hopened =>
    split
    next => exact List.append_ne_nil_of_right_ne_nil _ h
    next condition rest hclosing =>
      split
      next =>
        exact List.append_ne_nil_of_left_ne_nil
          (List.append_ne_nil_of_right_ne_nil _ (by decide)) rest
      next marked hmarked =>
        -- the text of the first marker stands in a line of its own
        cases hmarkers : Guard.markers condition with
        | nil => exact absurd hmarkers hmarked
        | cons body more =>
          have hline : Guard.todoLine body ≠ [] :=
            List.append_ne_nil_of_right_ne_nil _ (by decide)
          exact List.append_ne_nil_of_left_ne_nil
            (List.append_ne_nil_of_left_ne_nil hline _) _

/-- **No unit is without code**, with or without processing. -/
lemma code_ne_nil_of_mem_writePieces (tree : FileTree) (options : Options) (defined : Variables)
    {pieces : List Piece} {w : Written} : ∀ {l : Lexicon},
    w ∈ (writePieces tree options defined pieces l).1 → w.unit.code ≠ [] := by
  induction pieces with
  | nil => exact fun hw => by cases hw
  | cons p rest ih =>
    intro l hw
    rw [writePieces_cons] at hw
    rcases List.mem_cons.mp hw with rfl | hw
    · cases p with
      | alone line s => exact code_ne_nil options.fieldComments s
      | block b =>
        have hcode : (b.code tree options.fieldComments l).1 ≠ [] :=
          List.append_ne_nil_of_right_ne_nil _ (by decide)
        simp only [writePiece, writeBlock, finishBlock]
        split
        · exact process_ne_nil _ hcode
        · exact hcode
    · exact ih hw

/-- What block mode writes are the pieces of the sheet. -/
lemma written_draft (tree : FileTree) (c : Converter) (lines : List Text) :
    (c.draft tree lines).written =
      (writePieces tree c.options c.defined (c.assembled tree lines)
        (readLines tree c.options.helpers 1 lines c.lexicon).2).1 := by
  simp only [draft, assembled, Segmentation.pieces, Segmentation.along_eq_byPosition]

/-- **No unit of block mode is dropped.** -/
lemma units_convertBlocks (tree : FileTree) (c : Converter) (lines : List Text) :
    (c.convertBlocks tree lines).1.units = (c.draft tree lines).written.map (·.unit) := by
  rw [convertBlocks_eq_draft]
  refine units_output (fun w hw => ?_) _ _ _ _
  rw [written_draft] at hw
  simp [CodeUnit.isKept, code_ne_nil_of_mem_writePieces tree c.options c.defined hw]

/-- The units of block mode have the numbers and the kinds of the pieces of the sheet. -/
lemma map_units_convertBlocks (tree : FileTree) (c : Converter) (lines : List Text) :
    ((c.convertBlocks tree lines).1.units.map fun u => (u.line, u.kind)) =
      (c.assembled tree lines).map fun p => (p.line, p.kind) := by
  rw [units_convertBlocks, written_draft, List.map_map,
    ← (units_writePieces tree c.options c.defined (c.assembled tree lines) _).1]
  rfl

end Converter

/-! ### The report -/

/-- A result of block mode accounts for all lines of a sheet. -/
structure Output.AccountsFor (o : Output) (lines : List Text) : Prop where
  /-- All lines are counted. -/
  linesRead : o.report.linesRead = lines.length
  /-- The lines without a normal form are counted as blank. -/
  blankLines : o.report.blankLines = lines.countP fun raw => (Line.normalize raw).isNone
  /-- The numbers of units ascend. -/
  ascending : (o.units.map (·.line)).Pairwise (· < ·)
  /-- The numbers of units are those of lines. -/
  within : ∀ u ∈ o.units, 1 ≤ u.line ∧ u.line ≤ lines.length
  /-- There is one block for each line with the opening mark, under the number of the line. -/
  blockLines : ((o.units.filter fun u => u.kind = .block).map (·.line)) =
    (List.range' 1 lines.length).filter (Line.opensAt lines)
  /-- The blocks are counted. -/
  blocks : o.report.blocks = (o.units.filter fun u => u.kind = .block).length
  /-- The statements that stand alone are counted. -/
  standalone : o.report.standalone = (o.units.filter fun u => u.kind = .standalone).length
  /-- Every unit has code. -/
  code : ∀ u ∈ o.units, u.code ≠ []

namespace Converter

/-- The result of block mode accounts for all lines. -/
lemma accountsFor_convertBlocks (tree : FileTree) (c : Converter) (lines : List Text) :
    (c.convertBlocks tree lines).1.AccountsFor lines := by
  have hunits := map_units_convertBlocks tree c lines
  have hlines : (c.convertBlocks tree lines).1.units.map (·.line) =
      (c.assembled tree lines).map Piece.line := by
    simpa [Function.comp_def] using congrArg (List.map Prod.fst) hunits
  have hblocks : ((c.convertBlocks tree lines).1.units.filter fun u => u.kind = .block).map
      (·.line) = ((c.assembled tree lines).filter fun p => p.kind = .block).map Piece.line := by
    simpa [List.filter_map, Function.comp_def] using
      congrArg (fun entries => (entries.filter fun e => e.2 = UnitKind.block).map Prod.fst) hunits
  refine ⟨?_, ?_, ?_, ?_, ?_, ?_, ?_, ?_⟩
  · rw [convertBlocks_eq_draft]
    rfl
  · rw [convertBlocks_eq_draft]
    exact countP_isNone_readLines tree c.options.helpers lines 1 c.lexicon
  · rw [hlines, List.pairwise_map]
    exact assembled_sorted tree c lines
  · intro u hu
    have hmem : u.line ∈ (c.assembled tree lines).map Piece.line := by
      rw [← hlines]
      exact List.mem_map_of_mem hu
    obtain ⟨p, hp, hline⟩ := List.mem_map.mp hmem
    rw [← hline]
    exact line_of_mem_assembled hp
  · rw [hblocks, blocks_assembled]
  · rw [convertBlocks_eq_draft, ← List.countP_eq_length_filter]
    rfl
  · rw [convertBlocks_eq_draft, ← List.countP_eq_length_filter]
    rfl
  · intro u hu
    rw [units_convertBlocks, written_draft] at hu
    obtain ⟨w, hw, rfl⟩ := List.mem_map.mp hu
    exact code_ne_nil_of_mem_writePieces tree c.options c.defined hw

/-- Of statements that stand alone, each is counted or left to do. -/
lemma counted_writeStatement (options : Options) (entries : List (Nat × Statement)) :
    ((entries.map fun e => writeStatement options e.1 e.2).map (·.unit)).countP
        (fun u => u.kind = .standalone) +
      ((entries.map fun e => writeStatement options e.1 e.2).flatMap (·.todos)).length =
        entries.length := by
  induction entries with
  | nil => rfl
  | cons entry rest ih =>
    obtain ⟨line, s⟩ := entry
    have hone : (if (writeStatement options line s).unit.kind = .standalone then 1 else 0) +
        (writeStatement options line s).todos.length = 1 := by
      cases s <;> rfl
    simp only [List.map_cons, List.countP_cons, List.flatMap_cons, List.length_append,
      List.length_cons, decide_eq_true_eq] at ih ⊢
    omega

/-- Every line of a sheet in line mode is blank, is left out, or has a unit. -/
lemma linesRead_convertLines (tree : FileTree) (c : Converter) (lines : List Text) :
    let o := (c.convertLines tree lines).1
    o.report.linesRead = lines.length ∧
      o.report.linesRead = o.report.blankLines + o.report.skippedLines + o.units.length := by
  set read := (readLines tree c.options.helpers 1 lines c.lexicon).1
  have hread : lines.length = read.countP Option.isNone + read.countP Option.isSome := by
    have hsome : (fun line : Option SheetLine => decide ¬ line.isNone = true) = Option.isSome := by
      funext line
      cases line <;> rfl
    rw [← length_readLines tree c.options.helpers lines 1 c.lexicon,
      List.length_eq_countP_add_countP Option.isNone, hsome]
  have hkept : (read.filterMap id).length = read.countP Option.isSome := by
    simp [List.length_filterMap_eq_countP]
  have howned : (read.filterMap (own? c.options.policy)).length ≤ (read.filterMap id).length := by
    have hsplit : read.filterMap (own? c.options.policy) =
        (read.filterMap id).filterMap fun line => own? c.options.policy (some line) := by
      rw [List.filterMap_filterMap]
      rfl
    rw [hsplit]
    exact List.length_filterMap_le _ _
  have hunits : (c.convertLines tree lines).1.units.length =
      (read.filterMap (own? c.options.policy)).length := by
    rw [units_convertLines_eq, List.length_map, List.length_map]
  have hblank : (c.convertLines tree lines).1.report.blankLines = read.countP Option.isNone := by
    rw [convertLines_eq]
    rfl
  have hskipped : (c.convertLines tree lines).1.report.skippedLines =
      (read.filterMap id).length - (read.filterMap (own? c.options.policy)).length := by
    rw [convertLines_eq]
    rfl
  have hlines : (c.convertLines tree lines).1.report.linesRead = lines.length := by
    rw [convertLines_eq]
    rfl
  refine ⟨hlines, ?_⟩
  omega

/-- The units of line mode are the statements and the lines left to do. -/
lemma length_units_convertLines (tree : FileTree) (c : Converter) (lines : List Text) :
    let o := (c.convertLines tree lines).1
    o.units.length = o.report.standalone + o.report.todos.length := by
  have hcounted := counted_writeStatement c.options
    ((readLines tree c.options.helpers 1 lines c.lexicon).1.filterMap (own? c.options.policy))
  have htodos : (c.convertLines tree lines).1.report.todos =
      (((readLines tree c.options.helpers 1 lines c.lexicon).1.filterMap
        (own? c.options.policy)).map fun e => writeStatement c.options e.1 e.2).flatMap
          (·.todos) := by
    rw [convertLines_eq]
    rfl
  have hstandalone : (c.convertLines tree lines).1.report.standalone =
      (c.convertLines tree lines).1.units.countP fun u => u.kind = .standalone := by
    rw [convertLines_eq]
    rfl
  have hunits : (c.convertLines tree lines).1.units.length =
      ((readLines tree c.options.helpers 1 lines c.lexicon).1.filterMap
        (own? c.options.policy)).length := by
    rw [units_convertLines_eq, List.length_map, List.length_map]
  rw [← units_convertLines_eq, ← htodos, ← hstandalone, ← hunits] at hcounted
  exact hcounted.symm

/-- **The report accounts for every line.**  In block mode the counters of lines, blank lines,
blocks and statements are right, units come in the order of their lines, the blocks are those of the
lines with the opening mark, and no unit is without code.  In line mode every line is blank, is left
out, is a statement or is left to do, and the last two are those with a unit. -/
theorem accountsFor_lines (tree : FileTree) (c : Converter) (lines : List Text) :
    (c.convertBlocks tree lines).1.AccountsFor lines ∧
      let o := (c.convertLines tree lines).1
      o.report.linesRead = lines.length ∧
      o.report.linesRead = o.report.blankLines + o.report.skippedLines + o.report.standalone +
        o.report.todos.length ∧
      o.units.length = o.report.standalone + o.report.todos.length := by
  obtain ⟨hlines, hread⟩ := linesRead_convertLines tree c lines
  have hunits := length_units_convertLines tree c lines
  refine ⟨accountsFor_convertBlocks tree c lines, hlines, ?_, hunits⟩
  rw [hread, hunits, Nat.add_assoc _ _ (List.length _)]

end Converter

end RuleSheet
