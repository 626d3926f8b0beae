import RuleSheet.Files.Tree

/-!
# Sources

A run reads three kinds of sources: entity classes, variable definitions and rule sheets.  A source
that cannot be read is a failure with a wording of its own.

## Main definitions

* `RuleSheet.SourceKind` — the three kinds.
* `RuleSheet.SourceFailure` — a source that could not be read.
* `RuleSheet.FileTree.readSource` — the text of a source.
-/

set_option autoImplicit false

namespace RuleSheet

/-- The kinds of sources. -/
inductive SourceKind where
  /-- A generated entity class. -/
  | entity
  /-- The definitions of variables. -/
  | definitions
  /-- A rule sheet. -/
  | input
  deriving DecidableEq, Repr

/-- The word for a kind of source. -/
def SourceKind.word : SourceKind → Text
  | .entity => "entity"
  | .definitions => "definitions"
  | .input => "input"

/-- A source that could not be read. -/
structure SourceFailure where
  /-- What it should have been. -/
  kind : SourceKind
  /-- Where it was looked for. -/
  path : Text
  /-- Why it could not be read. -/
  cause : FileFailure
  deriving DecidableEq, Repr

/-- The wording of the failure. -/
def SourceFailure.message (f : SourceFailure) : Text :=
  "Failed to read " ++ f.kind.word ++ " source " ++ f.path ++ ": " ++ f.cause.message

/-- The text of a source. -/
def FileTree.readSource (tree : FileTree) (kind : SourceKind) (path : Text) :
    Except SourceFailure Text :=
  (tree.read path).mapError fun cause => ⟨kind, path, cause⟩

end RuleSheet
