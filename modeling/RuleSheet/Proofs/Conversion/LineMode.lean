import RuleSheet.Proofs.Conversion.Reading
import RuleSheet.Proofs.Steady

/-!
# Line mode

Lines can be converted one at a time, all at once, or, by block mode, as part of a sheet.  This
module compares the three ways.  A sheet in line mode is the sequence of its lines; a sheet without
conditions is the same in both modes; and, while the files do not change, no line of a sheet depends
on another.

## Main definitions

* `RuleSheet.Converter.convertEach` — lines converted one after the other.
* `RuleSheet.Converter.numbered` — the results that are there, with their numbers.
* `RuleSheet.Converter.own?` — the statement of a line on its own, with its number.

## Main results

* `RuleSheet.Converter.convertLines_agrees` — line mode converts one line after the other, and block
  mode does the same if no line is part of a condition.
* `RuleSheet.Converter.convertLines_independent` — every line is converted as by a new converter, if
  no two configured identifiers agree.

## Design

All ways read a line to a clause first.  The comparison is made on the statements that the lines
come to on their own (`own?`), before code is written.
-/

set_option autoImplicit false

namespace RuleSheet.Converter

/-! ### Lines on their own -/

/-- The statement that a line comes to on its own, with its number. -/
def own? (policy : Policy) (line : Option SheetLine) : Option (Nat × Statement) :=
  line.bind fun line => (lineStatement? policy line).map fun s => (line.number, s)

/-- Lines that are converted one after the other, each on its own. -/
def convertEach (tree : FileTree) : List Text → Converter → List (Option Text) × Converter
  | [], c => ([], c)
  | raw :: rest, c =>
    let (code, c) := c.convertLine tree raw
    let (more, c) := convertEach tree rest c
    (code :: more, c)

/-- The results that are there, each with its number, counted from a given number on. -/
def numbered (number : Nat) (codes : List (Option Text)) : List (Nat × Text) :=
  (codes.zipIdx number).filterMap fun entry => entry.1.map fun code => (entry.2, code)

variable (tree : FileTree)

/-- Line mode writes the statements that the lines come to on their own. -/
lemma convertLines_eq (c : Converter) (lines : List Text) :
    c.convertLines tree lines =
      let read := readLines tree c.options.helpers 1 lines c.lexicon
      (output ((read.1.filterMap (own? c.options.policy)).map
          fun entry => writeStatement c.options entry.1 entry.2)
        lines.length (read.1.countP Option.isNone)
        ((read.1.filterMap id).length - (read.1.filterMap (own? c.options.policy)).length) read.2,
        { c with lexicon := read.2 }) := by
  simp only [convertLines, List.filterMap_filterMap]
  rfl

/-- The code of a line on its own is that of its statement, whatever its number. -/
lemma own?_readLine (c : Converter) (number : Nat) (raw : Text) :
    ((own? c.options.policy (readLine tree c.options.helpers number raw c.lexicon).1).map
        fun entry => (entry.1, entry.2.code c.options.fieldComments)) =
      (c.convertLine tree raw).1.map fun code => (number, code) := by
  unfold own? convertLine readLine
  cases Line.normalize raw with
  | none => rfl
  | some text =>
    simp only [Option.bind_some, Option.map_map]
    rfl

/-- The lexicon after a line does not depend on its number. -/
lemma convertLine_snd (c : Converter) (number : Nat) (raw : Text) :
    (c.convertLine tree raw).2 =
      { c with lexicon := (readLine tree c.options.helpers number raw c.lexicon).2 } := by
  unfold convertLine readLine
  cases Line.normalize raw <;> rfl

/-- The first line of several is converted first. -/
lemma convertEach_cons (raw : Text) (rest : List Text) (c : Converter) :
    convertEach tree (raw :: rest) c =
      ((c.convertLine tree raw).1 :: (convertEach tree rest (c.convertLine tree raw).2).1,
        (convertEach tree rest (c.convertLine tree raw).2).2) := rfl

/-- The first result has the first number. -/
lemma numbered_cons (number : Nat) (code : Option Text) (rest : List (Option Text)) :
    numbered number (code :: rest) =
      (code.map fun code => (number, code)).toList ++ numbered (number + 1) rest := by
  unfold numbered
  rw [List.zipIdx_cons, List.filterMap_cons]
  cases code <;> rfl

/-- **Lines converted one after the other** have the code of their statements.

**Proof sketch.** Induction on the lines.  A line on its own is always read under the number one,
but neither its code (`own?_readLine`) nor the lexicon after it (`convertLine_snd`) depends on
that. -/
lemma convertEach_eq (lines : List Text) : ∀ (number : Nat) (c : Converter),
    numbered number (convertEach tree lines c).1 =
        (((readLines tree c.options.helpers number lines c.lexicon).1.filterMap
          (own? c.options.policy)).map
            fun entry => (entry.1, entry.2.code c.options.fieldComments)) ∧
      (convertEach tree lines c).2 =
        { c with lexicon := (readLines tree c.options.helpers number lines c.lexicon).2 } := by
  induction lines with
  | nil => exact fun number c => ⟨rfl, rfl⟩
  | cons raw rest ih =>
    intro number c
    obtain ⟨hcodes, hstate⟩ := ih (number + 1) (c.convertLine tree raw).2
    rw [convertEach_cons, readLines_cons]
    refine ⟨?_, ?_⟩
    · rw [numbered_cons, hcodes, ← own?_readLine, convertLine_snd tree c number raw,
        List.filterMap_cons]
      cases own? c.options.policy (readLine tree c.options.helpers number raw c.lexicon).1 <;> rfl
    · rw [hstate, convertLine_snd tree c number raw]

/-- The units of a run are those that were written, if all of them are put out. -/
lemma units_output {written : List Written} (h : ∀ w ∈ written, w.unit.isKept = true)
    (linesRead blankLines skippedLines : Nat) (l : Lexicon) :
    (output written linesRead blankLines skippedLines l).units = written.map (·.unit) := by
  refine List.filter_eq_self.mpr fun u hu => ?_
  obtain ⟨w, hw, rfl⟩ := List.mem_map.mp hu
  exact h w hw

/-- A statement that stands alone is put out. -/
lemma isKept_writeStatement (options : Options) (line : Nat) (s : Statement) :
    (writeStatement options line s).unit.isKept = true := by
  unfold writeStatement CodeUnit.isKept
  cases s.isTodo <;> rfl

/-- The units of line mode are the statements that the lines come to on their own. -/
lemma units_convertLines_eq (c : Converter) (lines : List Text) :
    (c.convertLines tree lines).1.units =
      (((readLines tree c.options.helpers 1 lines c.lexicon).1.filterMap
        (own? c.options.policy)).map fun entry => writeStatement c.options entry.1 entry.2).map
          (·.unit) := by
  rw [convertLines_eq]
  refine units_output (fun w hw => ?_) _ _ _ _
  obtain ⟨entry, -, rfl⟩ := List.mem_map.mp hw
  exact isKept_writeStatement c.options entry.1 entry.2

/-- The units of line mode are the lines converted one after the other. -/
lemma units_convertLines (c : Converter) (lines : List Text) :
    ((c.convertLines tree lines).1.units.map fun u => (u.line, u.code)) =
      numbered 1 (convertEach tree lines c).1 := by
  rw [units_convertLines_eq, (convertEach_eq tree lines 1 c).1]
  simp only [writeStatement, List.map_map]
  rfl

/-! ### Sheets without conditions -/

section

open Segmentation

variable (scope : BlockScope) (policy : Policy)

/-- No block opens at a line that is no part of a condition. -/
lemma openAfter_plain {line : SheetLine} (h : line.Plain) :
    openAfter scope false (some line) = false := by
  rcases h with ⟨s, hs⟩ | hu
  · simp [openAfter, opens, hs]
  · simp [openAfter, opens, hu]

/-- A line that is no part of a condition makes the piece of its statement. -/
lemma piece?_plain {line : SheetLine} (h : line.Plain) (after : List (Option SheetLine)) :
    piece? scope policy false (some line) after =
      (own? policy (some line)).map fun entry => .alone entry.1 entry.2 := by
  rcases h with ⟨s, hs⟩ | hu
  · simp [piece?, alone?, own?, lineStatement?, hs]
  · cases policy <;> simp [piece?, alone?, own?, lineStatement?, hu]

/-- A line that is no part of a condition is left out if it has no statement. -/
lemma leftOut?_plain {line : SheetLine} (h : line.Plain) :
    (leftOut? policy false (some line)).toList.length +
      (own? policy (some line)).toList.length = 1 := by
  rcases h with ⟨s, hs⟩ | hu
  · simp [leftOut?, own?, lineStatement?, hs]
  · cases policy <;> simp [leftOut?, own?, lineStatement?, hu]

/-- The pieces of a sheet without conditions are the statements of its lines. -/
lemma along_piece?_plain {lines : List (Option SheetLine)}
    (h : ∀ line ∈ lines.filterMap id, line.Plain) :
    along scope (piece? scope policy) false lines =
      (lines.filterMap (own? policy)).map fun entry => .alone entry.1 entry.2 := by
  induction lines with
  | nil => rfl
  | cons line rest ih =>
    rcases line with _ | line
    · simpa [along, piece?, openAfter, opens, own?, List.filterMap_cons] using ih h
    · have hline : line.Plain := h line (by simp)
      have hrest := ih fun later hlater => h later (by simp_all)
      rw [along, Bool.false_and, piece?_plain scope policy hline,
        openAfter_plain scope hline, hrest, List.filterMap_cons]
      cases own? policy (some line) <;> rfl

/-- A line of a sheet without conditions either has a statement or is left out. -/
lemma length_along_leftOut?_plain {lines : List (Option SheetLine)}
    (h : ∀ line ∈ lines.filterMap id, line.Plain) :
    (along scope (fun enclosed line _ => leftOut? policy enclosed line) false lines).length +
      (lines.filterMap (own? policy)).length = (lines.filterMap id).length := by
  induction lines with
  | nil => rfl
  | cons line rest ih =>
    rcases line with _ | line
    · simpa [along, leftOut?, openAfter, opens, own?, List.filterMap_cons] using ih h
    · have hline : line.Plain := h line (by simp)
      have hone := leftOut?_plain policy hline
      have hrest := ih fun later hlater => h later (by simp_all)
      have hown : ((some line :: rest).filterMap (own? policy)).length =
          (own? policy (some line)).toList.length + (rest.filterMap (own? policy)).length := by
        rw [List.filterMap_cons]
        cases own? policy (some line) <;> simp [Nat.add_comm]
      have hkept : ((some line :: rest).filterMap id).length = (rest.filterMap id).length + 1 := rfl
      rw [along, Bool.false_and, openAfter_plain scope hline, List.length_append, hown, hkept]
      omega

end

/-- Statements that stand alone are written without the lexicon. -/
lemma writePieces_alone (options : Options) (defined : Variables)
    (entries : List (Nat × Statement)) (l : Lexicon) :
    writePieces tree options defined (entries.map fun entry => .alone entry.1 entry.2) l =
      (entries.map fun entry => writeStatement options entry.1 entry.2, l) := by
  induction entries with
  | nil => rfl
  | cons entry rest ih => simp only [List.map_cons, writePieces, writePiece, ih]

/-- **A sheet without conditions is the same in both modes**: same units, same report, same
converter afterwards. -/
lemma convertBlocks_eq_convertLines (c : Converter) (lines : List Text)
    (h : ∀ raw ∈ lines, ∀ text ∈ Line.normalize raw, ∀ mark ∈ conditionMarks, ¬ mark <+: text) :
    c.convertBlocks tree lines = c.convertLines tree lines := by
  have hascending := readLines_ascending tree c.options.helpers lines 1 c.lexicon
  have hplain := plain_readLines tree c.options.helpers h 1 c.lexicon
  have hcount := length_along_leftOut?_plain c.options.scope c.options.policy hplain
  simp only [convertLines_eq, ← hcount, Nat.add_sub_cancel, convertBlocks,
    Segmentation.ofLines_eq_along _ _ _ hascending, along_piece?_plain _ _ hplain,
    writePieces_alone]

/-- **The ways to convert agree.**  Line mode gives the units that its lines give one after the
other, numbered from one, and leaves the same converter.  If no line starts with the mark of a
condition or of a further comparison, block mode gives the same units and the same report as line
mode, and leaves the same converter. -/
theorem convertLines_agrees (c : Converter) (lines : List Text) :
    (((c.convertLines tree lines).1.units.map fun u => (u.line, u.code)) =
        numbered 1 (convertEach tree lines c).1 ∧
      (c.convertLines tree lines).2 = (convertEach tree lines c).2) ∧
    ((∀ raw ∈ lines, ∀ text, Line.normalize raw = some text →
        ∀ mark ∈ conditionMarks, ¬ mark <+: text) →
      c.convertBlocks tree lines = c.convertLines tree lines) := by
  refine ⟨⟨units_convertLines tree c lines, ?_⟩, convertBlocks_eq_convertLines tree c lines⟩
  rw [convertLines_eq, (convertEach_eq tree lines 1 c).2]

/-- One entity source, with one column. -/
def hueFiles : FileTree := ⟨.ofList [(['a'], .file (.text "/** [hue] 色 */"))]⟩

/-- A converter over two entities, of which the second has no file. -/
def hueConverter : Converter :=
  let options : Options := { entityFiles := .ofList [(['A'], ['a']), (['B'], ['b'])] }
  ⟨options, .ofCatalog (.ofSources options.entityFiles) options.entityInstances, .empty⟩

/-- A sheet with two spellings of one entity, a blank line, a line that is not recognised, and a
line that asks for a missing file. -/
def hueSheet : List Text :=
  ["項目「A.(色)」＝１。", "", "abc", "項目「Ａ.(色)」＝２。", "項目「B.(色)」＝３。"]

/-- The units of the sheet, each with the number of its line. -/
def hueUnits : List (Nat × Text) :=
  [(1, "a.setHue(1);"), (4, "a.setHue(2);"),
    (5, "//TODO: 項目「B.(色)」＝３。 [entity not found: B]")]

/-- No line of the sheet is part of a condition, so both modes give the same. -/
theorem convertLines_agrees_hueSheet :
    (∀ raw ∈ hueSheet, ∀ text, Line.normalize raw = some text →
        ∀ mark ∈ conditionMarks, ¬ mark <+: text) ∧
      ((hueConverter.convertLines hueFiles hueSheet).1.units.map fun u => (u.line, u.code)) =
        hueUnits ∧
      hueConverter.convertBlocks hueFiles hueSheet =
        hueConverter.convertLines hueFiles hueSheet := by
  have hplain : ∀ raw ∈ hueSheet, ∀ text, Line.normalize raw = some text →
      ∀ mark ∈ conditionMarks, ¬ mark <+: text := by
    have hall : hueSheet.all (fun raw => (Line.normalize raw).all fun text =>
        conditionMarks.all fun mark => !mark.isPrefixOf text) = true := by decide +kernel
    intro raw hraw text htext mark hmark hstarts
    have hraw' := List.all_eq_true.mp hall raw hraw
    rw [htext, Option.all_some, List.all_eq_true] at hraw'
    simpa [List.isPrefixOf_iff_prefix.mpr hstarts] using hraw' mark hmark
  obtain ⟨⟨hunits, -⟩, hblocks⟩ := convertLines_agrees hueFiles hueConverter hueSheet
  exact ⟨hplain, hunits.trans (by decide +kernel), hblocks hplain⟩

/-! ### Lines that do not depend on each other -/

section

variable {tree} {options : Options}

/-- A converter with given options whose lexicon is faithful. -/
structure Faithful (tree : FileTree) (options : Options) (c : Converter) : Prop where
  /-- The options are the given ones. -/
  options_eq : c.options = options
  /-- The lexicon is faithful. -/
  lexicon : c.lexicon.Faithful tree options

/-- A new converter is faithful. -/
lemma faithful_new {c : Converter} (h : new tree options = .ok c) : c.Faithful tree options := by
  simp only [new, ofCatalog, bind, Except.bind, pure, Except.pure] at h
  split at h
  · split at h
    · cases h
    · cases h
      exact ⟨rfl, Lexicon.faithful_ofCatalog tree options⟩
  · cases h
    exact ⟨rfl, Lexicon.faithful_ofCatalog tree options⟩

/-- A faithful converter stays faithful. -/
lemma Faithful.convertLine {c : Converter} (h : c.Faithful tree options)
    (apart : Catalog.Apart options.entityFiles) (raw : Text) :
    (c.convertLine tree raw).2.Faithful tree options :=
  ⟨h.options_eq, (steady_readLine apart c.options.helpers 1 raw).faithful h.lexicon⟩

/-- Two faithful converters give a line the same code. -/
lemma Faithful.convertLine_eq {c c' : Converter} (h : c.Faithful tree options)
    (h' : c'.Faithful tree options) (apart : Catalog.Apart options.entityFiles) (raw : Text) :
    (c.convertLine tree raw).1 = (c'.convertLine tree raw).1 := by
  have hread := (steady_readLine apart options.helpers 1 raw).result_eq h.lexicon h'.lexicon
  simp only [Converter.convertLine, h.options_eq, h'.options_eq, hread]

/-- Lines converted one after the other by a faithful converter have the code that each of them has
by itself. -/
lemma Faithful.convertEach_eq {fresh : Converter} (h : fresh.Faithful tree options)
    (apart : Catalog.Apart options.entityFiles) (lines : List Text) :
    ∀ c : Converter, c.Faithful tree options →
      (convertEach tree lines c).1 = lines.map fun raw => (fresh.convertLine tree raw).1 := by
  induction lines with
  | nil => exact fun c hc => rfl
  | cons raw rest ih =>
    intro c hc
    rw [convertEach_cons, ih _ (hc.convertLine apart raw), hc.convertLine_eq h apart raw,
      List.map_cons]

/-- A number and a code are among the numbered results if the result at that place has the code. -/
lemma mem_numbered_iff (start number : Nat) (codes : List (Option Text)) (code : Text) :
    (number, code) ∈ numbered start codes ↔
      start ≤ number ∧ codes[number - start]? = some (some code) := by
  rw [← List.mk_mem_zipIdx_iff_le_and_getElem?_sub, numbered, List.mem_filterMap]
  constructor
  · rintro ⟨⟨result, n⟩, hmem, hresult⟩
    obtain ⟨code', rfl, heq⟩ := Option.map_eq_some_iff.mp hresult
    obtain ⟨rfl, rfl⟩ := Prod.mk.inj heq
    exact hmem
  · exact fun hmem => ⟨_, hmem, rfl⟩

/-- **Line mode converts every line independently of the others.**  If no two configured identifiers
agree, a new converter gives the units that each line would have with a new converter of its own:
there is a unit for a line if and only if the line alone has code, and then it has the number of the
line and that code. -/
theorem convertLines_independent (apart : Catalog.Apart options.entityFiles) (c : Converter)
    (hnew : new tree options = .ok c) (lines : List Text) :
    ((c.convertLines tree lines).1.units.map fun u => (u.line, u.code)) =
        numbered 1 (lines.map fun raw => (c.convertLine tree raw).1) ∧
      ∀ number code,
        (∃ u ∈ (c.convertLines tree lines).1.units, u.line = number ∧ u.code = code) ↔
          ∃ raw, 1 ≤ number ∧ lines[number - 1]? = some raw ∧
            (c.convertLine tree raw).1 = some code := by
  have hc := faithful_new hnew
  have hunits : ((c.convertLines tree lines).1.units.map fun u => (u.line, u.code)) =
      numbered 1 (lines.map fun raw => (c.convertLine tree raw).1) := by
    rw [units_convertLines, hc.convertEach_eq apart lines c hc]
  refine ⟨hunits, fun number code => ?_⟩
  have hmem : (∃ u ∈ (c.convertLines tree lines).1.units, u.line = number ∧ u.code = code) ↔
      (number, code) ∈ (c.convertLines tree lines).1.units.map fun u => (u.line, u.code) := by
    simp
  rw [hmem, hunits, mem_numbered_iff]
  simp

/-- The second spelling of an entity is converted as if the first had not been asked for. -/
theorem convertLines_independent_hueSheet :
    Catalog.Apart hueConverter.options.entityFiles ∧
      new hueFiles hueConverter.options = .ok hueConverter ∧
      (hueConverter.convertLine hueFiles "項目「Ａ.(色)」＝２。").1 = some ("a.setHue(2);" : Text) ∧
      ∃ u ∈ (hueConverter.convertLines hueFiles hueSheet).1.units,
        u.line = 4 ∧ u.code = "a.setHue(2);" := by
  have hapart : Catalog.Apart hueConverter.options.entityFiles := by decide +kernel
  have hnew : new hueFiles hueConverter.options = .ok hueConverter := rfl
  have hcode : (hueConverter.convertLine hueFiles "項目「Ａ.(色)」＝２。").1 =
      some ("a.setHue(2);" : Text) := by decide +kernel
  exact ⟨hapart, hnew, hcode, ((convertLines_independent hapart hueConverter hnew hueSheet).2 4
    "a.setHue(2);").mpr ⟨_, by decide, rfl, hcode⟩⟩

end

end RuleSheet.Converter
