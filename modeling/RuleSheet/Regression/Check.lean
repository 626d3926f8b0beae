import RuleSheet.Conversion.Basic
import RuleSheet.LineDiff
import RuleSheet.Regression.Corpus
import RuleSheet.Regression.Expectation

/-!
# Checking cases

A case passes if its rule sheet is converted to the expected code.  A check may also bring the
expectation up to date.

## Main definitions

* `RuleSheet.Regression.Settings` — how cases are checked, with `Settings.ofEnvironment`.
* `RuleSheet.Regression.Verdict` — the result for one case.
* `RuleSheet.Regression.convertCase` — the code of a case.
* `RuleSheet.Regression.checkCaseBy`, `checkAllBy` — one case, or all that a pattern selects, with
  their descriptions read by a function.
* `RuleSheet.Regression.checkCase`, `checkAll` — the same with the reader of settings files.

## Design

Every check gives its result together with the files after it, also if it fails.
-/

set_option autoImplicit false

namespace RuleSheet.Regression

open Text

/-! ### Settings -/

/-- How cases are checked. -/
structure Settings where
  /-- The folder of the corpus, if it is not the usual one. -/
  corpus : Option Text := none
  /-- Whether expectations that differ are replaced. -/
  update : Bool := false
  /-- Whether missing expectations are written. -/
  create : Bool := false
  /-- Whether results are printed in full. -/
  verbose : Bool := false
  /-- How diffs are shown. -/
  diff : LineDiff.Options := {}
  deriving DecidableEq, Repr

/-- The usual folder of the corpus. -/
def usualCorpus : Text := "golden-corpus/cases"

/-- The folder of the corpus. -/
def Settings.folder (s : Settings) : Text := s.corpus.getD usualCorpus

/-- Whether an environment variable switches something on. -/
def isOn (value : Option Text) : Bool :=
  match value with
  | some t => t = "1" || t.map Char.toLower = "true"
  | none => false

/-- The settings that the environment asks for. -/
def Settings.ofEnvironment (values : Dictionary Text) : Settings :=
  let update := isOn (values.find? "UPDATE_GOLDEN")
  { corpus := values.find? "GOLDEN_CORPUS_DIR", update, create := update,
    verbose := isOn (values.find? "GOLDEN_VERBOSE") }

/-! ### One case -/

/-- What a comparison with the expectation comes to. -/
structure Finding where
  /-- Whether the case passes. -/
  passed : Bool
  /-- The difference, if there is one. -/
  diff : Option Text := none
  /-- Whether the expectation was written. -/
  updated : Bool := false
  deriving DecidableEq, Repr

/-- The result for one case. -/
structure Verdict where
  /-- The name of the case. -/
  name : Text
  /-- Whether it passes. -/
  passed : Bool
  /-- Why it does not pass. -/
  error : Option Text
  /-- The difference to the expectation. -/
  diff : Option Text
  /-- Whether the expectation was written. -/
  updated : Bool
  deriving DecidableEq, Repr

/-- The code of a case, in canonical form. -/
def convertCase (tree : FileTree) (c : Case) : Except Failure Text := do
  let lines ← c.sheet tree
  let converter ← (Converter.new tree c.description.options).mapError .source
  return canonical (converter.run tree lines).1.render

/-- The tree with the code of a case as its expectation. -/
def saveCase (tree : FileTree) (c : Case) (code : Text) : Except Failure FileTree :=
  (saveExpectation tree c.expectedPath code).mapError .file

/-- Compares the code of a case with its expectation. -/
def compareCase (s : Settings) (tree : FileTree) (c : Case) (code : Text) :
    Except Failure (Finding × FileTree) := do
  if !hasExpectation tree c.expectedPath then
    if s.create || s.update then
      return ({ passed := true, updated := true }, ← saveCase tree c code)
    else throw (.missingExpectation c.expectedPath)
  else
    let expected ← (loadExpectation tree c.expectedPath).mapError .file
    let result := LineDiff.compare s.diff expected code
    if result.agrees then return ({ passed := true }, tree)
    else if s.update then
      return ({ passed := true, diff := some result.text, updated := true },
        ← saveCase tree c code)
    else return ({ passed := false, diff := some result.text }, tree)

/-- Checks a case.  A case that is not enabled passes. -/
def examine (s : Settings) (tree : FileTree) (c : Case) : Except Failure (Finding × FileTree) := do
  if !c.description.enabled then return ({ passed := true }, tree)
  else compareCase s tree c (← convertCase tree c)

/-- The verdict on a case, and the files after it. -/
def judge (s : Settings) (tree : FileTree) (c : Case) : Verdict × FileTree :=
  match examine s tree c with
  | .ok (f, tree) =>
    (⟨c.name, f.passed, if f.passed then none else some "Output differs from expectation",
      f.diff, f.updated⟩, tree)
  | .error f => (⟨c.name, false, some f.message, none, false⟩, tree)

/-- Checks the case with a name.  `read?` gives the document of its description. -/
def checkCaseBy (read? : Text → Option Document) (s : Settings) (tree : FileTree) (name : Text) :
    Except Failure Verdict × FileTree :=
  match loadCaseBy read? tree s.folder name with
  | .error f => (.error f, tree)
  | .ok c =>
    let (v, tree) := judge s tree c
    (if v.passed then .ok v
      else .error (.caseFailed name (v.error.getD "Unknown error".toList) v.diff), tree)

/-- Checks the case with a name. -/
def checkCase (s : Settings) (tree : FileTree) (name : Text) :
    Except Failure Verdict × FileTree :=
  checkCaseBy Document.ofYaml? s tree name

/-! ### Many cases -/

/-- Checks cases, one after the other. -/
def judgeAll (s : Settings) : FileTree → List Case → List Verdict × FileTree
  | tree, [] => ([], tree)
  | tree, c :: rest =>
    let (v, tree) := judge s tree c
    let (vs, tree) := judgeAll s tree rest
    (v :: vs, tree)

/-- Checks the enabled cases that a pattern selects.  `read?` gives the documents of their
descriptions. -/
def checkAllBy (read? : Text → Option Document) (s : Settings) (tree : FileTree) (pattern : Text) :
    Except Failure (List Verdict) × FileTree :=
  match enabled (matching pattern (discoverBy read? tree s.folder)) with
  | [] => (.error (.noMatch pattern), tree)
  | cases =>
    let (verdicts, tree) := judgeAll s tree cases
    let failed := verdicts.countP fun v => !v.passed
    (if failed = 0 then .ok verdicts else .error (.casesFailed failed), tree)

/-- Checks the enabled cases that a pattern selects. -/
def checkAll (s : Settings) (tree : FileTree) (pattern : Text) :
    Except Failure (List Verdict) × FileTree :=
  checkAllBy Document.ofYaml? s tree pattern

end RuleSheet.Regression
