import RuleSheet.Proofs.Conversion.LineMode

/-!
# Sheets in parts

The start of a condition ends whatever came before it.  So a sheet can be cut there: block mode
makes of the whole sheet what it makes of the two parts, with the line numbers of the lower part
counted on from the upper one.

## Main definitions

* `RuleSheet.SheetLine.shift`, `Piece.shift`, `CodeUnit.shift`, `TodoItem.shift` — things of a
  sheet, some lines further down.

## Main results

* `RuleSheet.Segmentation.along_append_opening` — the assembler starts anew at a condition.
* `RuleSheet.Segmentation.along_shift` — the assembler does not look at the numbers of lines.
* `RuleSheet.Converter.convertBlocks_append` — block mode on a sheet in two parts.

## Design

Three things are carried from the upper part into the lower one: the open block, the numbers of the
lines, and the lexicon.  The first two are the assembler's and are treated on lists of lines that
were read; the third is hidden by `Lexicon.Steady`, also from the second pass, which starts only
when all lines of both parts were read.
-/

set_option autoImplicit false

namespace RuleSheet

/-! ### Line numbers -/

/-- The line, some lines further down. -/
def SheetLine.shift (k : Nat) (line : SheetLine) : SheetLine :=
  { line with number := line.number + k }

/-- The piece, some lines further down. -/
def Piece.shift (k : Nat) : Piece → Piece
  | .block b => .block { b with line := b.line + k }
  | .alone line s => .alone (line + k) s

/-- The unit, some lines further down. -/
def CodeUnit.shift (k : Nat) (u : CodeUnit) : CodeUnit := { u with line := u.line + k }

/-- The report item, some lines further down. -/
def TodoItem.shift (k : Nat) (t : TodoItem) : TodoItem := { t with line := t.line + k }

/-- What was written, some lines further down. -/
def Converter.Written.shift (k : Nat) (w : Converter.Written) : Converter.Written :=
  { w with unit := w.unit.shift k, todos := w.todos.map (TodoItem.shift k) }

namespace Segmentation

variable (scope : BlockScope) (policy : Policy) (k : Nat)

/-! ### The assembler does not look at numbers -/

lemma opens_shift (line : Option SheetLine) :
    opens (line.map (SheetLine.shift k)) = opens line := by
  cases line <;> rfl

lemma ends_shift (line : Option SheetLine) :
    ends scope (line.map (SheetLine.shift k)) = ends scope line := by
  cases line <;> rfl

lemma comparison?_shift (line : Option SheetLine) :
    comparison? (line.map (SheetLine.shift k)) = comparison? line := by
  cases line <;> rfl

lemma statement?_shift (line : Option SheetLine) :
    statement? (line.map (SheetLine.shift k)) = statement? line := by
  cases line <;> rfl

/-- The lines of a block, some lines further down. -/
lemma extent_shift (after : List (Option SheetLine)) :
    extent scope (after.map (Option.map (SheetLine.shift k))) =
      (extent scope after).map (Option.map (SheetLine.shift k)) := by
  simp only [extent, List.takeWhile_map, Function.comp_def, ends_shift]

/-- The block of lines some lines further down. -/
lemma blockOf_shift (number : Nat) (first : Comparison) (members : List (Option SheetLine)) :
    Piece.block (blockOf (number + k) first (members.map (Option.map (SheetLine.shift k)))) =
      (Piece.block (blockOf number first members)).shift k := by
  simp only [blockOf, List.filterMap_map, Function.comp_def, comparison?_shift, statement?_shift,
    Piece.shift]

/-- The piece of a line some lines further down. -/
lemma piece?_shift (enclosed : Bool) (line : Option SheetLine) (after : List (Option SheetLine)) :
    piece? scope policy enclosed (line.map (SheetLine.shift k))
        (after.map (Option.map (SheetLine.shift k))) =
      (piece? scope policy enclosed line after).map (Piece.shift k) := by
  rcases line with _ | ⟨number, indented, text, clause⟩
  · rfl
  · cases clause with
    | opening part =>
      simp only [piece?, SheetLine.shift, Option.map_some, Option.bind_some, extent_shift,
        blockOf_shift]
    | continuation connective part => cases enclosed <;> rfl
    | statement s => cases enclosed <;> rfl
    | unrecognized text => cases enclosed <;> cases policy <;> rfl

/-- A line some lines further down is left out if the line is. -/
lemma leftOut?_shift (enclosed : Bool) (line : Option SheetLine) :
    leftOut? policy enclosed (line.map (SheetLine.shift k)) =
      (leftOut? policy enclosed line).map (SheetLine.shift k) := by
  rcases line with _ | ⟨number, indented, text, clause⟩
  · rfl
  · cases clause with
    | unrecognized text => cases enclosed <;> cases policy <;> rfl
    | _ => rfl

/-- One pass over lines some lines further down. -/
lemma along_shift {α : Type} {f : Bool → Option SheetLine → List (Option SheetLine) → Option α}
    {shifted : α → α}
    (hf : ∀ enclosed line after, f enclosed (line.map (SheetLine.shift k))
      (after.map (Option.map (SheetLine.shift k))) = (f enclosed line after).map shifted)
    (lines : List (Option SheetLine)) : ∀ isOpen : Bool,
    along scope f isOpen (lines.map (Option.map (SheetLine.shift k))) =
      (along scope f isOpen lines).map shifted := by
  induction lines with
  | nil => exact fun isOpen => rfl
  | cons line rest ih =>
    intro isOpen
    rw [List.map_cons, along, along, hf, ends_shift, openAfter, ends_shift, opens_shift,
      ← openAfter, ih, List.map_append]
    cases f (isOpen && !ends scope line) line rest <;> rfl

/-! ### The assembler starts anew at a condition -/

/-- The start of a condition ends the block before it. -/
lemma ends_of_opens {line : Option SheetLine} (h : opens line = true) :
    ends scope line = true := by
  rcases line with _ | ⟨number, indented, text, clause⟩
  · cases h
  · cases clause <;> first | rfl | cases h

variable {first : Option SheetLine} (opening : opens first = true)
  (rest : List (Option SheetLine))

include opening

/-- No block reaches beyond the start of a condition. -/
lemma extent_append_opening (after : List (Option SheetLine)) :
    extent scope (after ++ first :: rest) = extent scope after := by
  have hends := ends_of_opens scope opening
  induction after with
  | nil => simp [extent, hends]
  | cons line after ih =>
    unfold extent at ih ⊢
    rw [List.cons_append, List.takeWhile_cons, List.takeWhile_cons, ih]

/-- The pieces above the start of a condition do not depend on what follows. -/
lemma piece?_append_opening (enclosed : Bool) (line : Option SheetLine)
    (after : List (Option SheetLine)) :
    piece? scope policy enclosed line (after ++ first :: rest) =
      piece? scope policy enclosed line after := by
  unfold piece?
  rw [extent_append_opening scope opening rest after]

/-- **The assembler starts anew at a condition**, whether a block is open there or not. -/
lemma along_append_opening {α : Type}
    {f : Bool → Option SheetLine → List (Option SheetLine) → Option α}
    (hf : ∀ enclosed line after, f enclosed line (after ++ first :: rest) = f enclosed line after)
    (lines : List (Option SheetLine)) : ∀ isOpen : Bool,
    along scope f isOpen (lines ++ first :: rest) =
      along scope f isOpen lines ++ along scope f false (first :: rest) := by
  induction lines with
  | nil =>
    intro isOpen
    -- the first line below is enclosed in no block, since it ends the one that may be open
    rw [List.nil_append, along, along, along, openAfter, openAfter, ends_of_opens scope opening,
      opening]
    simp
  | cons line lines ih =>
    intro isOpen
    rw [List.cons_append, along, along, hf, ih, List.append_assoc]

omit opening in
/-- One pass over lines in two parts, of which the lower one starts with a condition. -/
lemma along_append_shift {α : Type}
    {f : Bool → Option SheetLine → List (Option SheetLine) → Option α} {shifted : α → α}
    (hshift : ∀ enclosed line after, f enclosed (line.map (SheetLine.shift k))
      (after.map (Option.map (SheetLine.shift k))) = (f enclosed line after).map shifted)
    (happend : ∀ {first : Option SheetLine}, opens first = true → ∀ rest enclosed line after,
      f enclosed line (after ++ first :: rest) = f enclosed line after)
    (upper : List (Option SheetLine)) {lower : List (Option SheetLine)}
    (hlower : lower.head?.any opens = true) :
    along scope f false (upper ++ lower.map (Option.map (SheetLine.shift k))) =
      along scope f false upper ++ (along scope f false lower).map shifted := by
  obtain ⟨first, hhead, hopens⟩ := (Option.any_eq_true _ _).mp hlower
  obtain ⟨rest, rfl⟩ := List.head?_eq_some_iff.mp hhead
  have hfirst : opens (first.map (SheetLine.shift k)) = true := by rw [opens_shift, hopens]
  rw [← along_shift scope k hshift, List.map_cons, along_append_opening scope hfirst _
    (happend hfirst _)]

end Segmentation

namespace Converter

variable (tree : FileTree) (k : Nat)

/-! ### The two passes -/

/-- Reading a line some lines further down. -/
lemma readLine_shift (helpers : Helpers) (number : Nat) (raw : Text) (l : Lexicon) :
    readLine tree helpers (number + k) raw l =
      ((readLine tree helpers number raw l).1.map (SheetLine.shift k),
        (readLine tree helpers number raw l).2) := by
  unfold readLine
  cases Line.normalize raw <;> rfl

/-- Reading lines some lines further down. -/
lemma readLines_shift (helpers : Helpers) (lines : List Text) : ∀ (number : Nat) (l : Lexicon),
    readLines tree helpers (number + k) lines l =
      ((readLines tree helpers number lines l).1.map (Option.map (SheetLine.shift k)),
        (readLines tree helpers number lines l).2) := by
  induction lines with
  | nil => exact fun number l => rfl
  | cons raw rest ih =>
    intro number l
    rw [readLines_cons, readLines_cons, readLine_shift, Nat.add_right_comm, ih, List.map_cons]

/-- Lines are read in parts. -/
lemma readLines_append (helpers : Helpers) (xs ys : List Text) : ∀ (number : Nat) (l : Lexicon),
    readLines tree helpers number (xs ++ ys) l =
      ((readLines tree helpers number xs l).1 ++
          (readLines tree helpers (number + xs.length) ys
            (readLines tree helpers number xs l).2).1,
        (readLines tree helpers (number + xs.length) ys
          (readLines tree helpers number xs l).2).2) := by
  induction xs with
  | nil => exact fun number l => rfl
  | cons raw xs ih =>
    intro number l
    rw [List.cons_append, readLines_cons, readLines_cons, ih, List.length_cons, List.cons_append,
      Nat.add_assoc, Nat.add_comm 1]

/-- Writing a piece some lines further down. -/
lemma writePiece_shift (options : Options) (defined : Variables) (p : Piece) (l : Lexicon) :
    writePiece tree options defined (p.shift k) l =
      ((writePiece tree options defined p l).1.shift k,
        (writePiece tree options defined p l).2) := by
  have htodos : ∀ line : Nat, todoItems (line + k) =
      fun s => (todoItems line s).map (TodoItem.shift k) := by
    intro line
    funext s
    cases s <;> rfl
  cases p with
  | block b =>
    -- the code of a block does not show its line
    have hcode : Block.code tree options.fieldComments { b with line := b.line + k } =
        b.code tree options.fieldComments := rfl
    simp only [Piece.shift, writePiece, writeBlock, Written.shift, CodeUnit.shift, hcode, htodos,
      List.map_flatMap]
  | alone line s =>
    simp only [Piece.shift, writePiece, writeStatement, Written.shift, CodeUnit.shift, htodos]

/-- The first of several pieces is written first. -/
lemma writePieces_cons (options : Options) (defined : Variables) (p : Piece) (rest : List Piece)
    (l : Lexicon) :
    writePieces tree options defined (p :: rest) l =
      ((writePiece tree options defined p l).1 ::
          (writePieces tree options defined rest (writePiece tree options defined p l).2).1,
        (writePieces tree options defined rest (writePiece tree options defined p l).2).2) :=
  rfl

/-- Writing pieces some lines further down. -/
lemma writePieces_shift (options : Options) (defined : Variables) (pieces : List Piece) :
    ∀ l : Lexicon, writePieces tree options defined (pieces.map (Piece.shift k)) l =
      ((writePieces tree options defined pieces l).1.map (Written.shift k),
        (writePieces tree options defined pieces l).2) := by
  induction pieces with
  | nil => exact fun l => rfl
  | cons p rest ih =>
    intro l
    rw [List.map_cons, writePieces_cons, writePieces_cons, writePiece_shift, ih, List.map_cons]

/-- Pieces are written in parts. -/
lemma writePieces_append (options : Options) (defined : Variables) (ps qs : List Piece) :
    ∀ l : Lexicon, writePieces tree options defined (ps ++ qs) l =
      ((writePieces tree options defined ps l).1 ++
          (writePieces tree options defined qs (writePieces tree options defined ps l).2).1,
        (writePieces tree options defined qs (writePieces tree options defined ps l).2).2) := by
  induction ps with
  | nil => exact fun l => rfl
  | cons p ps ih =>
    intro l
    rw [List.cons_append, writePieces_cons, writePieces_cons, ih, List.cons_append]

/-! ### Sheets in two parts -/

/-- What becomes of a sheet in block mode, before the report is made. -/
structure Draft where
  /-- The lines that were read. -/
  read : List (Option SheetLine)
  /-- What was written. -/
  written : List Written
  /-- The number of lines left out. -/
  skipped : Nat

/-- What a converter makes of a sheet in block mode, before it makes the report. -/
def draft (c : Converter) (lines : List Text) : Draft :=
  let read := readLines tree c.options.helpers 1 lines c.lexicon
  { read := read.1,
    written := (writePieces tree c.options c.defined (Segmentation.along c.options.scope
      (Segmentation.piece? c.options.scope c.options.policy) false read.1) read.2).1,
    skipped := (Segmentation.along c.options.scope (fun enclosed line _ =>
      Segmentation.leftOut? c.options.policy enclosed line) false read.1).length }

/-- Block mode reports what is in the draft. -/
lemma convertBlocks_eq_draft (c : Converter) (lines : List Text) :
    (c.convertBlocks tree lines).1 =
      output (c.draft tree lines).written lines.length
        ((c.draft tree lines).read.countP Option.isNone) (c.draft tree lines).skipped
        (c.convertBlocks tree lines).2.lexicon := by
  have hascending := readLines_ascending tree c.options.helpers lines 1 c.lexicon
  simp only [convertBlocks, Segmentation.ofLines_eq_along _ _ _ hascending, draft]

/-- A line with the opening mark is read as the start of a condition. -/
lemma opens_readLine {raw text : Text} (hraw : Line.normalize raw = some text)
    (hmark : openingMark <+: text) (helpers : Helpers) (number : Nat) (l : Lexicon) :
    Segmentation.opens (readLine tree helpers number raw l).1 = true := by
  obtain ⟨part, hpart⟩ := classify_opening hmark
  simp only [readLine, hraw, hpart, Segmentation.opens]

variable {tree} {options : Options}

/-- The lower part of a sheet is read as by itself, but for the numbers: the lexicon that the upper
part leaves cannot be told from the one before. -/
lemma steady_readLines_append (apart : Catalog.Apart options.entityFiles) {l : Lexicon}
    (h : l.Faithful tree options) (helpers : Helpers) (xs ys : List Text) :
    (readLines tree helpers 1 (xs ++ ys) l).1 =
      (readLines tree helpers 1 xs l).1 ++
        (readLines tree helpers 1 ys l).1.map (Option.map (SheetLine.shift xs.length)) := by
  have hafter := (steady_readLines apart helpers xs 1).faithful h
  rw [readLines_append, readLines_shift, (steady_readLines apart helpers ys 1).result_eq hafter h]

/-- Pieces in two parts are written as each part by itself, but for the numbers, with any faithful
lexicons. -/
lemma steady_writePieces_append (apart : Catalog.Apart options.entityFiles)
    (unreplaced : options.postprocess = false) {l lx ly : Lexicon} (h : l.Faithful tree options)
    (hx : lx.Faithful tree options) (hy : ly.Faithful tree options) (defined : Variables)
    (ps qs : List Piece) :
    (writePieces tree options defined (ps ++ qs.map (Piece.shift k)) l).1 =
      (writePieces tree options defined ps lx).1 ++
        (writePieces tree options defined qs ly).1.map (Written.shift k) := by
  have hsteady : ∀ pieces, Lexicon.Steady tree options (writePieces tree options defined pieces) :=
    steady_writePieces apart unreplaced defined
  rw [writePieces_append, writePieces_shift, (hsteady ps).result_eq h hx,
    (hsteady qs).result_eq ((hsteady ps).faithful h) hy]

/-- **The draft of a sheet in two parts**, of which the lower one starts with a condition.

**Proof sketch.** Each of the three things that the upper part could hand to the lower one is dealt
with by a lemma: the lexicon and the numbers when lines are read (`steady_readLines_append`), the
open block when they are assembled (`along_append_shift`), and the lexicon once more when pieces are
written (`steady_writePieces_append`). -/
lemma Faithful.draft_append {c : Converter} (h : c.Faithful tree options)
    (apart : Catalog.Apart options.entityFiles) (unreplaced : options.postprocess = false)
    (xs : List Text) {first text : Text} (hfirst : Line.normalize first = some text)
    (hmark : openingMark <+: text) (rest : List Text) :
    c.draft tree (xs ++ first :: rest) =
      { read := (c.draft tree xs).read ++
          (c.draft tree (first :: rest)).read.map (Option.map (SheetLine.shift xs.length)),
        written := (c.draft tree xs).written ++
          (c.draft tree (first :: rest)).written.map (Written.shift xs.length),
        skipped := (c.draft tree xs).skipped + (c.draft tree (first :: rest)).skipped } := by
  obtain ⟨options', l, defined⟩ := c
  obtain ⟨hoptions, hl⟩ := h
  obtain rfl : options' = options := hoptions
  have hlower : (readLines tree options'.helpers 1 (first :: rest) l).1.head?.any
      Segmentation.opens = true := opens_readLine tree hfirst hmark options'.helpers 1 l
  have hread := steady_readLines_append apart hl options'.helpers xs (first :: rest)
  have hpieces := Segmentation.along_append_shift options'.scope xs.length
    (Segmentation.piece?_shift options'.scope options'.policy xs.length)
    (Segmentation.piece?_append_opening options'.scope options'.policy)
    (readLines tree options'.helpers 1 xs l).1 hlower
  have hskipped := Segmentation.along_append_shift options'.scope xs.length
    (f := fun enclosed line _ => Segmentation.leftOut? options'.policy enclosed line)
    (fun enclosed line _ => Segmentation.leftOut?_shift options'.policy xs.length enclosed line)
    (fun _ _ _ _ _ => rfl) (readLines tree options'.helpers 1 xs l).1 hlower
  have hreadable := fun lines => (steady_readLines apart options'.helpers lines 1).faithful hl
  simp only [draft, hread, hpieces, hskipped, List.length_append, List.length_map]
  rw [steady_writePieces_append _ apart unreplaced (hreadable _) (hreadable xs)
    (hreadable (first :: rest))]

/-- If comparisons are not replaced, there is always a new converter. -/
lemma exists_new (tree : FileTree) (unreplaced : options.postprocess = false) :
    ∃ c, new tree options = .ok c := by
  refine
    ⟨⟨options, .ofCatalog (.ofSources options.entityFiles) options.entityInstances, .empty⟩, ?_⟩
  simp only [new, ofCatalog, unreplaced]
  cases options.definitionsFile <;> rfl

/-- **Block mode on a sheet in two parts.**  If comparisons are not replaced, no two configured
identifiers agree, and the lower part starts with a condition, then a new converter makes of the
whole sheet what it makes of the two parts: the units of the upper part, and those of the lower part
with their lines counted on; the numbers in the report are sums, and the lines left to do are those
of the two parts. -/
theorem convertBlocks_append (tree : FileTree) (options : Options)
    (unreplaced : options.postprocess = false) (apart : Catalog.Apart options.entityFiles) :
    ∃ c, new tree options = .ok c ∧
      ∀ (xs : List Text) (first : Text) (rest : List Text) (text : Text),
        Line.normalize first = some text → openingMark <+: text →
          let whole := (c.convertBlocks tree (xs ++ first :: rest)).1
          let upper := (c.convertBlocks tree xs).1
          let lower := (c.convertBlocks tree (first :: rest)).1
          whole.units = upper.units ++ lower.units.map (CodeUnit.shift xs.length) ∧
          whole.report.linesRead = upper.report.linesRead + lower.report.linesRead ∧
          whole.report.blankLines = upper.report.blankLines + lower.report.blankLines ∧
          whole.report.skippedLines = upper.report.skippedLines + lower.report.skippedLines ∧
          whole.report.blocks = upper.report.blocks + lower.report.blocks ∧
          whole.report.standalone = upper.report.standalone + lower.report.standalone ∧
          whole.report.todos =
            upper.report.todos ++ lower.report.todos.map (TodoItem.shift xs.length) := by
  obtain ⟨c, hnew⟩ := exists_new tree unreplaced
  refine ⟨c, hnew, fun xs first rest text hfirst hmark => ?_⟩
  have hdraft := (faithful_new hnew).draft_append apart unreplaced xs hfirst hmark rest
  dsimp only
  rw [convertBlocks_eq_draft tree c (xs ++ first :: rest), convertBlocks_eq_draft tree c xs,
    convertBlocks_eq_draft tree c (first :: rest), hdraft]
  -- whether a unit is put out does not depend on its number
  have hkept : ∀ units : List CodeUnit, (units.map (CodeUnit.shift xs.length)).filter
      CodeUnit.isKept = (units.filter CodeUnit.isKept).map (CodeUnit.shift xs.length) :=
    fun units => List.filter_map
  have hunits : (((c.draft tree xs).written ++ (c.draft tree (first :: rest)).written.map
      (Written.shift xs.length)).map (·.unit)).filter CodeUnit.isKept =
        ((c.draft tree xs).written.map (·.unit)).filter CodeUnit.isKept ++
          (((c.draft tree (first :: rest)).written.map (·.unit)).filter CodeUnit.isKept).map
            (CodeUnit.shift xs.length) := by
    rw [← hkept, List.map_append, List.filter_append, List.map_map, List.map_map]
    rfl
  -- blanks, blocks and statements are counted without looking at numbers
  refine ⟨hunits, List.length_append, ?_, rfl, ?_, ?_, ?_⟩
  · simp [output, List.countP_append, List.countP_map, Function.comp_def]
  · simp only [output, hunits, List.countP_append, List.countP_map]
    rfl
  · simp only [output, hunits, List.countP_append, List.countP_map]
    rfl
  · simp [output, List.flatMap_append, List.flatMap_map, List.map_flatMap, Written.shift]

/-- A sheet with a condition over an indented line. -/
def upperSheet : List Text := ["abc", "》【条件】項目「A.(色)」＝１のとき", "　項目「A.(色)」＝２。"]

/-- A condition that asks for the same entity in another spelling. -/
def lowerStart : Text := "》【条件】項目「Ａ.(色)」≠１のとき"

/-- The lines after it. -/
def lowerRest : List Text := ["　項目「B.(色)」＝３。"]

/-- The two sheets in one. -/
theorem convertBlocks_append_sheets :
    hueConverter.options.postprocess = false ∧
      Catalog.Apart hueConverter.options.entityFiles ∧
      new hueFiles hueConverter.options = .ok hueConverter ∧
      (hueConverter.convertBlocks hueFiles (upperSheet ++ lowerStart :: lowerRest)).1.units =
        [⟨2, .block, "if(a.getHue() == 1) \x7b\n    a.setHue(2);\n\x7d"⟩,
          ⟨4, .block,
            "if(a.getHue() != 1) \x7b\n    //TODO: 項目「B.(色)」＝３。 [entity not found: B]\n\x7d"⟩] ∧
      (hueConverter.convertBlocks hueFiles
        (upperSheet ++ lowerStart :: lowerRest)).1.report.skippedLines = 1 := by
  have hapart : Catalog.Apart hueConverter.options.entityFiles := by decide +kernel
  have hnew : new hueFiles hueConverter.options = .ok hueConverter := rfl
  obtain ⟨c, hc, happend⟩ := convertBlocks_append hueFiles hueConverter.options rfl hapart
  obtain rfl : hueConverter = c := Except.ok.inj (hnew.symm.trans hc)
  have hnormal : Line.normalize lowerStart = some lowerStart := by decide +kernel
  have hmark : openingMark <+: lowerStart := by decide +kernel
  obtain ⟨hunits, -, -, hskipped, -⟩ :=
    happend upperSheet lowerStart lowerRest lowerStart hnormal hmark
  exact ⟨rfl, hapart, hnew, hunits.trans (by decide +kernel), hskipped.trans (by decide +kernel)⟩

end Converter

end RuleSheet
