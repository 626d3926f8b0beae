import RuleSheet.Java.ValueType
import RuleSheet.Label
import RuleSheet.Text.Case

/-!
# Entities

An entity class stands for a table.  Each of its documented fields has a column name, a label by
which rule lines refer to it, and accessors named after the column.

## Main definitions

* `RuleSheet.Field` — one documented field, with `Field.ofColumn` and `Field.withType`.
* `RuleSheet.Entity` — a class and its fields.
* `RuleSheet.Entity.fieldLabelled?` — the field that a label refers to.
* `RuleSheet.identifier` — the camel-case identifier of a column name.
-/

set_option autoImplicit false

namespace RuleSheet

open Text

/-- The camel-case identifier of a column name: `test_field_1` becomes `testField1`.  Empty
segments count for nothing. -/
def identifier (column : Text) : Text :=
  match ((column.splitOn '_').filter (· ≠ [])).map lowercase with
  | [] => []
  | first :: others => first ++ others.flatMap capitalize

/-- One documented field of an entity class. -/
structure Field where
  /-- The column name, as the documentation gives it. -/
  column : Text
  /-- The identifier of the field. -/
  identifier : Text
  /-- The label that rule lines refer to. -/
  label : Text
  /-- The name of the method that reads the field. -/
  getter : Text
  /-- The name of the method that writes the field. -/
  setter : Text
  /-- The declared type, if a declaration follows the documentation. -/
  declared : Option Text
  /-- The kind of the declared type. -/
  type : ValueType
  deriving DecidableEq, Repr

namespace Field

/-- A field from its column name and its label; its type is not known yet. -/
def ofColumn (column label : Text) : Field :=
  let name := RuleSheet.identifier column
  { column, label, identifier := name,
    getter := "get" ++ capitalize name, setter := "set" ++ capitalize name,
    declared := none, type := .unknown }

/-- The field with a declared type. -/
def withType (f : Field) (declared : Text) : Field :=
  { f with declared := some declared, type := .ofDeclared declared }

end Field

/-- An entity class and its documented fields. -/
structure Entity where
  /-- The name of the class. -/
  className : Option Text
  /-- The fields in the order of the source. -/
  fields : List Field
  deriving DecidableEq, Repr

namespace Entity

/-- An entity of which nothing is known. -/
def empty : Entity := ⟨none, []⟩

instance : Inhabited Entity := ⟨empty⟩

/-- The first field whose label agrees with the given one. -/
def fieldLabelled? (e : Entity) (label : Text) : Option Field :=
  let key := Label.key label
  if key = [] then none else e.fields.find? fun f => Label.key f.label = key

/-- The customary name of an instance: the class name with its first letter in lower case. -/
def instanceName (e : Entity) : Option Text := e.className.map lowerFirst

end Entity

end RuleSheet
