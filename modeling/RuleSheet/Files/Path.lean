import RuleSheet.Text.Basic

/-!
# Paths

Paths are texts with slashes between their components.

## Main definitions

* `RuleSheet.Path.components` — the components of a path.
* `RuleSheet.Path.join`, `parent?`, `fileName?`, `stem?`, `suffix?` — building paths and taking
  them apart.
-/

set_option autoImplicit false

namespace RuleSheet.Path

open Text

/-- Whether the path starts at the root. -/
def isAbsolute : Text → Bool
  | '/' :: _ => true
  | _ => false

/-- The pieces of a path that are not empty and not a dot behind another piece. -/
def components (path : Text) : List Text :=
  match (path.splitOn '/').filter (· ≠ []) with
  | [] => []
  | first :: others =>
    let others := others.filter (· ≠ ['.'])
    if isAbsolute path ∧ first = ['.'] then others else first :: others

/-- A path relative to a base.  An absolute path needs no base. -/
def join (base path : Text) : Text :=
  if isAbsolute path || base = [] then path
  else match base.getLast? with
    | some '/' => base ++ path
    | _ => base ++ '/' :: path

/-- Pieces without those at the end that lead nowhere: empty ones and dots. -/
def trimPieces (pieces : List Text) : List Text :=
  (pieces.reverse.dropWhile fun piece => piece = [] || piece = ['.']).reverse

/-- The path without its last component.  The empty path and the root have none. -/
def parent? (path : Text) : Option Text :=
  match path.splitOn '/' with
  | [] => none
  | first :: others =>
    match trimPieces others with
    | [] => if first = [] then none else some []
    | others =>
      match first, trimPieces others.dropLast with
      | [], [] => some ['/']
      | first, others => some (Text.join ['/'] (first :: others))

/-- The last component, if it names a file. -/
def fileName? (path : Text) : Option Text :=
  match (components path).getLast? with
  | none => none
  | some name => if name = ".." ∨ name = ['.'] then none else some name

/-- The file name before and after its last dot.  A dot at the start does not count. -/
def splitName (name : Text) : Text × Option Text :=
  match cutLast? ['.'] name with
  | none | some ([], _) => (name, none)
  | some (stem, suffix) => (stem, some suffix)

/-- The file name without its last suffix. -/
def stem? (path : Text) : Option Text := (fileName? path).map fun name => (splitName name).1

/-- The part of the file name after its last dot. -/
def suffix? (path : Text) : Option Text := (fileName? path).bind fun name => (splitName name).2

end RuleSheet.Path
