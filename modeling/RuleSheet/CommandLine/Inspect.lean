import RuleSheet.CommandLine.Failure
import RuleSheet.Console.Basic
import RuleSheet.Entity.Catalog

/-!
# Inspecting entities from the command line

The command that shows what is extracted from an entity source.

## Main definitions

* `RuleSheet.CommandLine.inspect` — what is written to the console.
-/

set_option autoImplicit false

namespace RuleSheet.CommandLine

open Text

/-- What people read below the fields of an entity. -/
def inspectMessages (c : Console) (e : Entity) : Text :=
  if e.fields = [] then
    c.warning "No commented fields found; expected `/** [column] comment */` blocks"
  else match e.instanceName with
    | some name =>
      c.info (Text.ofNat e.fields.length ++ " field(s); default receiver `" ++ name ++ "`")
    | none => []

/-- Shows the entity of a source file. -/
def inspect (c : Console) (tree : FileTree) (path : Text) : Except Failure Text := do
  if !tree.hasEntry path then throw (.fileNotFound path)
  let e ← (Entity.extract tree path).mapError fun f => .conversion (.source f)
  return c.entity e ++ inspectMessages c e

end RuleSheet.CommandLine
