import RuleSheet.Files.Tree

/-!
# Expectations

The code that a case is expected to give, kept in a file.  Differences in line ends and in white
space at the end of lines do not count.

## Main definitions

* `RuleSheet.Regression.canonical` — the form in which code is compared.
* `RuleSheet.Regression.loadExpectation`, `saveExpectation` — reading and writing.
-/

set_option autoImplicit false

namespace RuleSheet.Regression

open Text

/-- The canonical form of code: lines without white space at their ends, no empty lines after the
last, and a line feed at the end unless there is nothing. -/
def canonical (t : Text) : Text :=
  let body := trimEndBy (· = '\n') (join ['\n'] ((lines (dropByteOrderMarks t)).map trimEnd))
  if body = [] then [] else body ++ ['\n']

/-- Whether there is an expectation at the path. -/
def hasExpectation (tree : FileTree) (path : Text) : Bool :=
  match tree.contentAt path with
  | .ok _ => true
  | .error _ => false

/-- The expectation at the path, in canonical form. -/
def loadExpectation (tree : FileTree) (path : Text) : Except FileFailure Text :=
  (tree.read path).map canonical

/-- The path where the last expectation is kept. -/
def backupPath (path : Text) : Text := path ++ ".bak"

/-- The tree with an expectation written.  The last one is kept beside it. -/
def saveExpectation (tree : FileTree) (path code : Text) : Except FileFailure FileTree := do
  let tree ← if tree.hasEntry path then tree.copy path (backupPath path) else pure tree
  let tree ← tree.makeFolders ((Path.parent? path).getD [])
  tree.write path (canonical code)

end RuleSheet.Regression
