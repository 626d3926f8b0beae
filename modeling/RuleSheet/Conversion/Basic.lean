import RuleSheet.Block.Assembly
import RuleSheet.Code
import RuleSheet.Guard.Call
import RuleSheet.Line
import RuleSheet.Sentence.Clause

/-!
# Converting rule sheets

A converter turns the lines of a sheet into units of Java code, with a report of what became of
each line.  It can be used for several sheets, one after the other; what it has learned about
entities stays with it.

## Main definitions

* `RuleSheet.CodeUnit`, `RuleSheet.TodoItem`, `RuleSheet.Report` — the result of a run.
* `RuleSheet.Converter` — options, lexicon and variables.
* `RuleSheet.Converter.convertBlocks`, `convertLines`, `convertLine`, `run` — the ways to convert.

## Design

Block mode has three steps: every line becomes a clause, clauses are assembled to pieces, and
pieces are written as code.  The first and the last thread the lexicon from left to right; the
second needs none.
-/

set_option autoImplicit false

namespace RuleSheet

open Text

/-! ### Results -/

/-- What a unit of code came from. -/
inductive UnitKind where
  /-- A condition with its statements. -/
  | block
  /-- A statement that stands alone. -/
  | standalone
  /-- A line left to do by hand. -/
  | todo
  deriving DecidableEq, Repr

/-- The word for a kind. -/
def UnitKind.word : UnitKind → Text
  | .block => "block"
  | .standalone => "standalone"
  | .todo => "todo"

/-- A unit of code. -/
structure CodeUnit where
  /-- The number of the line that it came from. -/
  line : Nat
  /-- What it came from. -/
  kind : UnitKind
  /-- The code. -/
  code : Text
  deriving DecidableEq, Repr

/-- Whether a unit is put out.  A block without code is not. -/
def CodeUnit.isKept (u : CodeUnit) : Bool := u.kind ≠ .block || u.code ≠ []

/-- A line that is left to do by hand. -/
structure TodoItem where
  /-- The number under which it is reported. -/
  line : Nat
  /-- The line. -/
  kept : Text
  /-- The code of the reason. -/
  code : Text
  /-- The wording of the reason. -/
  reason : Text
  deriving DecidableEq, Repr

/-- What became of the lines of a sheet. -/
structure Report where
  /-- The number of lines. -/
  linesRead : Nat
  /-- The number of blank lines. -/
  blankLines : Nat
  /-- The number of lines left out. -/
  skippedLines : Nat
  /-- The number of blocks. -/
  blocks : Nat
  /-- The number of statements that stand alone. -/
  standalone : Nat
  /-- The lines left to do by hand. -/
  todos : List TodoItem
  /-- The number of comparisons that became calls. -/
  comparisonsReplaced : Nat
  /-- The number of entity identifiers with a known entity. -/
  entitiesLoaded : Nat
  deriving DecidableEq, Repr

/-- The result of a run. -/
structure Output where
  /-- The units in the order of their lines. -/
  units : List CodeUnit
  /-- What became of the lines. -/
  report : Report
  deriving DecidableEq, Repr

/-- The code of all units, one below the other. -/
def Output.render (o : Output) : Text := join ['\n'] (o.units.map (·.code))

/-! ### The converter -/

/-- Options, lexicon and variables. -/
structure Converter where
  /-- The options. -/
  options : Options
  /-- What references stand for. -/
  lexicon : Lexicon
  /-- The defined variables. -/
  defined : Variables

namespace Converter

/-- A converter over a prepared catalog.  The variable definitions are read now, if comparisons
are to be replaced. -/
def ofCatalog (tree : FileTree) (options : Options) (catalog : Catalog) :
    Except SourceFailure Converter := do
  let defined ← match options.definitionsFile, options.postprocess with
    | some path, true => Variables.load tree path
    | _, _ => pure .empty
  return ⟨options, .ofCatalog catalog options.entityInstances, defined⟩

/-- A converter over the configured entity sources. -/
def new (tree : FileTree) (options : Options) : Except SourceFailure Converter :=
  ofCatalog tree options (.ofSources options.entityFiles)

/-! ### Writing pieces -/

/-- The report item of a statement that is left to do. -/
def todoItems (line : Nat) : Statement → List TodoItem
  | .todo kept reason => [⟨line, kept, reason.code, reason.message⟩]
  | _ => []

/-- A unit of code with what the report says about it. -/
structure Written where
  /-- The unit. -/
  unit : CodeUnit
  /-- The lines left to do by hand. -/
  todos : List TodoItem
  /-- The number of comparisons that became calls. -/
  replaced : Nat
  deriving DecidableEq, Repr

/-- A statement that stands alone. -/
def writeStatement (options : Options) (line : Nat) (s : Statement) : Written :=
  { unit := ⟨line, if s.isTodo then .todo else .standalone, s.code options.fieldComments⟩,
    todos := todoItems line s, replaced := 0 }

/-- The code of a block, after the comparisons of its condition were replaced if that is
wanted. -/
def finishBlock (options : Options) (defined : Variables) (code : Text) (l : Lexicon) :
    Guard.Processed :=
  if options.postprocess then Guard.process ⟨l.types, defined, options.helpers⟩ code
  else ⟨code, 0⟩

/-- A block. -/
def writeBlock (tree : FileTree) (options : Options) (defined : Variables) (b : Block)
    (l : Lexicon) : Written × Lexicon :=
  let (code, l) := b.code tree options.fieldComments l
  let processed := finishBlock options defined code l
  ({ unit := ⟨b.line, .block, processed.code⟩,
     todos := b.statements.flatMap (todoItems b.line), replaced := processed.replaced }, l)

/-- A piece. -/
def writePiece (tree : FileTree) (options : Options) (defined : Variables) (p : Piece)
    (l : Lexicon) : Written × Lexicon :=
  match p with
  | .block b => writeBlock tree options defined b l
  | .alone line s => (writeStatement options line s, l)

/-- Pieces in a row. -/
def writePieces (tree : FileTree) (options : Options) (defined : Variables) :
    List Piece → Lexicon → List Written × Lexicon
  | [], l => ([], l)
  | p :: rest, l =>
    let (written, l) := writePiece tree options defined p l
    let (more, l) := writePieces tree options defined rest l
    (written :: more, l)

/-! ### Reading lines -/

/-- The clause of a raw line; a blank line has none. -/
def readLine (tree : FileTree) (helpers : Helpers) (number : Nat) (raw : Text) (l : Lexicon) :
    Option SheetLine × Lexicon :=
  match Line.normalize raw with
  | none => (none, l)
  | some text =>
    let (clause, l) := classify tree helpers text l
    (some ⟨number, Line.isIndented raw, text, clause⟩, l)

/-- The clauses of lines that are numbered from a given number on. -/
def readLines (tree : FileTree) (helpers : Helpers) :
    Nat → List Text → Lexicon → List (Option SheetLine) × Lexicon
  | _, [], l => ([], l)
  | number, raw :: rest, l =>
    let (line, l) := readLine tree helpers number raw l
    let (more, l) := readLines tree helpers (number + 1) rest l
    (line :: more, l)

/-! ### The ways to convert -/

/-- The number of comparisons that became calls in what was written. -/
def replacedIn : List Written → Nat
  | [] => 0
  | w :: rest => w.replaced + replacedIn rest

/-- The result of a run from what was written. -/
def output (written : List Written) (linesRead blankLines skippedLines : Nat) (l : Lexicon) :
    Output :=
  let units := (written.map (·.unit)).filter CodeUnit.isKept
  { units,
    report :=
      { linesRead, blankLines, skippedLines,
        blocks := units.countP fun u => u.kind = .block,
        standalone := units.countP fun u => u.kind = .standalone,
        todos := written.flatMap (·.todos),
        comparisonsReplaced := replacedIn written,
        entitiesLoaded := l.catalog.loadedCount } }

/-- Block mode: conditions guard the statements after them. -/
def convertBlocks (tree : FileTree) (c : Converter) (lines : List Text) : Output × Converter :=
  let (read, l) := readLines tree c.options.helpers 1 lines c.lexicon
  let (pieces, skipped) := Assembly.ofLines c.options.scope c.options.policy read
  let (written, l) := writePieces tree c.options c.defined pieces l
  (output written lines.length (read.countP Option.isNone) skipped l, { c with lexicon := l })

/-- The statement that a line comes to on its own.  A line without a statement is kept or left out,
as the policy says. -/
def lineStatement? (policy : Policy) (line : SheetLine) : Option Statement :=
  match line.clause with
  | .statement s => some s
  | _ =>
    match policy with
    | .todo => some (Assembly.unrecognized line.text)
    | .skip => none

/-- Line mode: every line is converted on its own. -/
def convertLines (tree : FileTree) (c : Converter) (lines : List Text) : Output × Converter :=
  let (read, l) := readLines tree c.options.helpers 1 lines c.lexicon
  let kept := read.filterMap id
  let statements := kept.filterMap fun line =>
    (lineStatement? c.options.policy line).map fun s => (line.number, s)
  let written := statements.map fun (number, s) => writeStatement c.options number s
  (output written lines.length (read.countP Option.isNone) (kept.length - statements.length) l,
    { c with lexicon := l })

/-- The code of one line on its own; a blank line and a line that is left out have none. -/
def convertLine (tree : FileTree) (c : Converter) (raw : Text) : Option Text × Converter :=
  let (line, l) := readLine tree c.options.helpers 1 raw c.lexicon
  (line.bind fun line =>
    (lineStatement? c.options.policy line).map fun s => s.code c.options.fieldComments,
    { c with lexicon := l })

/-- Converts a sheet in the configured mode. -/
def run (tree : FileTree) (c : Converter) (lines : List Text) : Output × Converter :=
  match c.options.mode with
  | .block => c.convertBlocks tree lines
  | .line => c.convertLines tree lines

end Converter

end RuleSheet
