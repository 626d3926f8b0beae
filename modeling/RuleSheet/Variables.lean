import RuleSheet.Files.Source
import RuleSheet.Java.Declaration
import RuleSheet.Java.ValueType

/-!
# Variable definitions

The variables that conditions compare with each other are declared in a source of their own, one
private field to a line.  All other lines of it are ignored.

## Main definitions

* `RuleSheet.Variable` — one defined variable.
* `RuleSheet.Variables` — the defined variables by name.
* `RuleSheet.Variables.ofSource`, `load` — the variables of a source text and of a file.
* `RuleSheet.Variables.isNumeric` — whether a variable is declared with a numeric type.
-/

set_option autoImplicit false

namespace RuleSheet

/-- One defined variable. -/
structure Variable where
  /-- Its name. -/
  name : Text
  /-- Its declared type. -/
  declared : Text
  /-- The text of its initial value. -/
  initial : Option Text
  /-- The kind of its declared type. -/
  type : ValueType
  deriving DecidableEq, Repr

/-- The defined variables by name. -/
structure Variables where
  /-- The variables. -/
  byName : Dictionary Variable

namespace Variables

/-- No variables. -/
def empty : Variables := ⟨.empty⟩

instance : Inhabited Variables := ⟨empty⟩

/-- The variables with one more, which replaces a variable of the same name. -/
def define (vs : Variables) (name declared : Text) (initial : Option Text) : Variables :=
  ⟨vs.byName.insert name ⟨name, declared, initial, .ofDeclared declared⟩⟩

/-- The variables with a declared field. -/
def declare (vs : Variables) (d : Java.Declaration) : Variables :=
  vs.define d.name d.type d.initial

/-- The variables declared in a source text. -/
def ofSource (source : Text) : Variables :=
  ((Text.lines source).filterMap Java.declaration?).foldl declare empty

/-- The variables declared in a file. -/
def load (tree : FileTree) (path : Text) : Except SourceFailure Variables :=
  (tree.readSource .definitions path).map ofSource

/-- The variable of a name. -/
def find? (vs : Variables) (name : Text) : Option Variable := vs.byName.find? name

/-- Whether a variable is declared with a numeric type. -/
def isNumeric (vs : Variables) (name : Text) : Bool :=
  match vs.find? name with
  | some v => v.type.isNumeric
  | none => false

/-- The number of variables. -/
def size (vs : Variables) : Nat := vs.byName.size

end Variables

end RuleSheet
