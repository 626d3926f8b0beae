import RuleSheet.Dictionary
import RuleSheet.Files.Path

/-!
# Options of a run

How a rule sheet is converted.

## Main definitions

* `RuleSheet.Mode`, `RuleSheet.BlockScope`, `RuleSheet.Policy` — the choices with keywords, and
  `Keywords.parse`, which reads them.
* `RuleSheet.Helpers` — the Java classes that generated code calls.
* `RuleSheet.Options` — all options of a run, and `Options.relativeTo`, which gives their paths a
  base.
-/

set_option autoImplicit false

namespace RuleSheet

open Text

/-! ### Choices -/

/-- How lines are grouped. -/
inductive Mode where
  /-- Conditions guard the statements after them. -/
  | block
  /-- Every line is converted on its own. -/
  | line
  deriving DecidableEq, Repr

/-- Which lines belong to the block of a condition. -/
inductive BlockScope where
  /-- Indented lines; a blank line or a line without indentation ends the block. -/
  | indented
  /-- All lines up to the next condition. -/
  | untilNextCondition
  deriving DecidableEq, Repr

/-- What happens to a line outside of blocks that is not recognised. -/
inductive Policy where
  /-- It is left out. -/
  | skip
  /-- It is kept as a comment. -/
  | todo
  deriving DecidableEq, Repr

/-- The keyword of each choice. -/
abbrev Keywords (α : Type) := List (Text × α)

/-- A word that is none of the keywords. -/
structure KeywordFailure where
  /-- The word, in lower case and with underscores. -/
  given : Text
  /-- The keywords. -/
  expected : List Text
  deriving DecidableEq, Repr

/-- The wording of the failure. -/
def KeywordFailure.message (f : KeywordFailure) : Text :=
  "unknown value '" ++ f.given ++ "', expected one of: " ++ join ", " f.expected

namespace Keywords

/-- A letter of ASCII in lower case, and a hyphen as an underscore. -/
def plainChar (c : Char) : Char :=
  if 'A' ≤ c ∧ c ≤ 'Z' then Char.ofNat (c.toNat + 32) else if c = '-' then '_' else c

/-- The choice that a word stands for.  Blanks around it, the case of its letters and the
difference between hyphen and underscore do not matter. -/
def parse {α : Type} (keywords : Keywords α) (t : Text) : Except KeywordFailure α :=
  let word := (trim t).map plainChar
  match keywords.find? fun (keyword, _) => keyword = word with
  | some (_, choice) => .ok choice
  | none => .error ⟨word, keywords.map (·.1)⟩

end Keywords

/-- The keywords of the modes. -/
def Mode.keywords : Keywords Mode := [("block", .block), ("line", .line)]

/-- The keyword of a mode. -/
def Mode.keyword : Mode → Text
  | .block => "block"
  | .line => "line"

/-- The keywords of the block scopes. -/
def BlockScope.keywords : Keywords BlockScope :=
  [("indented", .indented), ("until_next_condition", .untilNextCondition)]

/-- The keyword of a block scope. -/
def BlockScope.keyword : BlockScope → Text
  | .indented => "indented"
  | .untilNextCondition => "until_next_condition"

/-- The keywords of the policies. -/
def Policy.keywords : Keywords Policy := [("skip", .skip), ("todo", .todo)]

/-- The keyword of a policy. -/
def Policy.keyword : Policy → Text
  | .skip => "skip"
  | .todo => "todo"

/-! ### All options -/

/-- The Java classes that generated code calls. -/
structure Helpers where
  /-- For texts. -/
  string : Text := "StrUtil"
  /-- For numbers. -/
  numeric : Text := "NumUtil"
  /-- For dates. -/
  date : Text := "DateUtil"
  deriving DecidableEq, Repr

/-- The options of a run. -/
structure Options where
  /-- How lines are grouped. -/
  mode : Mode := .block
  /-- The source file of each entity identifier. -/
  entityFiles : Dictionary Text := .empty
  /-- The instance name of each entity identifier. -/
  entityInstances : Dictionary Text := .empty
  /-- Whether comparisons are replaced by calls of helpers. -/
  postprocess : Bool := false
  /-- The source file of the variable definitions. -/
  definitionsFile : Option Text := none
  /-- What happens to lines that are not recognised. -/
  policy : Policy := .skip
  /-- Which lines belong to a block. -/
  scope : BlockScope := .untilNextCondition
  /-- Whether the label of a field is written above its assignment. -/
  fieldComments : Bool := false
  /-- The helper classes. -/
  helpers : Helpers := {}

/-- The options with their paths taken from a base folder. -/
def Options.relativeTo (base : Text) (o : Options) : Options :=
  { o with
    entityFiles := o.entityFiles.mapValues (Path.join base)
    definitionsFile := o.definitionsFile.map (Path.join base) }

end RuleSheet
