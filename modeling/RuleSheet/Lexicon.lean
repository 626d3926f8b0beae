import RuleSheet.Entity.Catalog
import RuleSheet.Obstacle
import RuleSheet.Reference

/-!
# The lexicon

What references and literals stand for in Java.  Fields are looked up in the entity catalog and
read through the getter of an instance.  The type of every field that was found is kept under its
expression.

## Main definitions

* `RuleSheet.Target` — a field with the instance that it belongs to.
* `RuleSheet.TypeIndex` — the types of expressions.
* `RuleSheet.Lexicon` — the catalog, the configured instances and the types seen so far.
* `RuleSheet.Lexicon.field`, `reference`, `resolve` — the meaning of a field, of a reference, and
  of an operand; each comes with the lexicon afterwards.
-/

set_option autoImplicit false

namespace RuleSheet

open Text

/-- A field with the instance that it belongs to. -/
structure Target where
  /-- The name of the instance. -/
  owner : Text
  /-- The field. -/
  field : Field
  deriving DecidableEq, Repr

namespace Target

/-- The expression that reads the field. -/
def getterCall (t : Target) : Text := t.owner ++ "." ++ t.field.getter ++ "()"

/-- The method that writes the field, without its argument. -/
def setter (t : Target) : Text := t.owner ++ "." ++ t.field.setter

end Target

/-- The types of expressions. -/
structure TypeIndex where
  /-- The type of each known expression. -/
  types : Dictionary ValueType

namespace TypeIndex

/-- Nothing is known. -/
def empty : TypeIndex := ⟨.empty⟩

instance : Inhabited TypeIndex := ⟨empty⟩

/-- The index with one more type, which replaces an earlier one. -/
def record (index : TypeIndex) (expression : Text) (type : ValueType) : TypeIndex :=
  ⟨index.types.insert expression type⟩

/-- The type of an expression, blanks at its ends apart. -/
def find? (index : TypeIndex) (expression : Text) : Option ValueType :=
  index.types.find? (trim expression)

/-- The number of known expressions. -/
def size (index : TypeIndex) : Nat := index.types.size

end TypeIndex

/-- The meaning of an operand. -/
structure Meaning where
  /-- The Java expression. -/
  expression : Text
  /-- Its type, if it is a field. -/
  type : Option ValueType
  deriving DecidableEq, Repr

/-- The catalog, the configured instances, and the types seen so far. -/
structure Lexicon where
  /-- The entity catalog. -/
  catalog : Catalog
  /-- The configured instance of each entity identifier. -/
  instances : Dictionary Text
  /-- The types of the expressions of fields. -/
  types : TypeIndex

namespace Lexicon

/-- A lexicon that has not been asked yet. -/
def ofCatalog (catalog : Catalog) (instances : Dictionary Text) : Lexicon :=
  ⟨catalog, instances, .empty⟩

/-- The configured instance for an entity identifier: its own, or that of the smallest identifier
that agrees with it. -/
def instanceFor? (l : Lexicon) (entity : Text) : Option Text :=
  l.instances.find? entity <|>
    (l.instances.first? fun other _ => Label.agree other entity).map (·.2)

/-- The name of the instance through which the fields of an entity are reached. -/
def ownerOf (l : Lexicon) (id : Text) (entity : Entity) : Text :=
  (l.instanceFor? id <|> entity.instanceName).getD id

/-- The field of an entity with a label.  A field that is found has its type recorded. -/
def field (tree : FileTree) (l : Lexicon) (id label : Text) : Except Obstacle Target × Lexicon :=
  let (answer, catalog) := l.catalog.get tree id
  let l := { l with catalog }
  match answer with
  | none => (.error (.entityNotFound id), l)
  | some entity =>
    match entity.fieldLabelled? label with
    | none => (.error (.fieldNotFound id label), l)
    | some f =>
      let target : Target := ⟨l.ownerOf id entity, f⟩
      (.ok target, { l with types := l.types.record target.getterCall f.type })

/-- The meaning of a reference. -/
def reference (tree : FileTree) (l : Lexicon) : Reference → Except Obstacle Meaning × Lexicon
  | .field id label =>
    let (answer, l) := l.field tree id label
    (answer.map fun target => ⟨target.getterCall, some target.field.type⟩, l)
  | .variable category name => (.ok ⟨"this." ++ category :: name, none⟩, l)
  | .flag name => (.ok ⟨"this." ++ name, none⟩, l)

/-- The meaning of an operand: a reference, the word for an empty value, a number, or Java text
that is taken as it is. -/
def resolve (tree : FileTree) (l : Lexicon) (operand : Text) : Except Obstacle Meaning × Lexicon :=
  let operand := trim operand
  match Reference.ofToken? operand with
  | some r => l.reference tree r
  | none =>
    if isBlankWord operand then (.ok ⟨"\"\"", none⟩, l)
    else if isNumber operand then (.ok ⟨foldDigits operand, none⟩, l)
    else (.ok ⟨operand, none⟩, l)

end Lexicon

end RuleSheet
