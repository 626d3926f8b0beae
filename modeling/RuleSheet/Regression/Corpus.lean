import RuleSheet.Regression.Case
import RuleSheet.Text.Order

/-!
# The corpus

The cases below a folder.

## Main definitions

* `RuleSheet.Regression.loadCaseBy`, `loadCase` — the case with a name.
* `RuleSheet.Regression.discoverBy`, `discover` — all cases, by priority and then by name.
* `RuleSheet.Regression.matching`, `enabled` — some of them.
-/

set_option autoImplicit false

namespace RuleSheet.Regression

open Text

/-- The case with a name.  `read?` gives the document of its description. -/
def loadCaseBy (read? : Text → Option Document) (tree : FileTree) (corpus name : Text) :
    Except Failure Case :=
  let folder := Path.join corpus name
  if tree.hasEntry (Path.join folder Case.fileName) then Case.loadBy read? tree folder
  else .error (.noCase folder)

/-- The case with a name. -/
def loadCase (tree : FileTree) (corpus name : Text) : Except Failure Case :=
  loadCaseBy Document.ofYaml? tree corpus name

/-- The folders below a corpus that hold the description of a case, in the order of their names. -/
def caseFolders (tree : FileTree) (corpus : Text) : List Text :=
  let found := (tree.filesBelow corpus).filter fun pieces => pieces.getLast? = some Case.fileName
  (found.mergeSort fun a b => !rowPrecedes Text.precedes b a).map fun pieces =>
    pieces.dropLast.foldl Path.join corpus

/-- Whether a case comes before another or may do so. -/
def inOrder (a b : Case) : Bool :=
  a.description.priority < b.description.priority ||
    (a.description.priority = b.description.priority && !Text.precedes b.name a.name)

/-- All cases, by priority and then by name.  A case that cannot be read is left out. -/
def discoverBy (read? : Text → Option Document) (tree : FileTree) (corpus : Text) : List Case :=
  ((caseFolders tree corpus).filterMap fun folder =>
    (Case.loadBy read? tree folder).toOption).mergeSort inOrder

/-- All cases, by priority and then by name. -/
def discover (tree : FileTree) (corpus : Text) : List Case :=
  discoverBy Document.ofYaml? tree corpus

/-- Whether a pattern selects a case: a part of its name, or one of its tags, or a star for all. -/
def Case.matches (c : Case) (pattern : Text) : Bool :=
  pattern = "*" || Text.contains c.name pattern || c.description.tags.any (· = pattern)

/-- The cases that a pattern selects. -/
def matching (pattern : Text) (cases : List Case) : List Case :=
  cases.filter fun c => c.matches pattern

/-- The cases that are run. -/
def enabled (cases : List Case) : List Case := cases.filter fun c => c.description.enabled

end RuleSheet.Regression
