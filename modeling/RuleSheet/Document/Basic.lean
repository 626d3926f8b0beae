import RuleSheet.Text.Basic

/-!
# Documents

Settings, test cases and reports are exchanged as documents: trees of scalars, lists and maps.
This module holds the tree and the ways to read a value of a given kind out of it.

## Main definitions

* `RuleSheet.Document` — the tree.
* `RuleSheet.Document.text?`, `flag?`, `count?`, `list?`, `entries?` — a document read
  as a value of one kind.
* `RuleSheet.Document.Record` — a map read as a record with known fields.

## Design

A scalar without quotes, as a settings file has it, is kept as it was written (`plain`): `on` is a
text where a text is asked for, and `true` a truth value or a text.  Formats whose scalars carry
their kind never produce it.
-/

set_option autoImplicit false

namespace RuleSheet

/-- A tree of scalars, lists and maps.  The entries of a map are in the order of the document. -/
inductive Document where
  /-- The absent value. -/
  | null
  /-- A truth value. -/
  | flag (value : Bool)
  /-- A whole number. -/
  | number (value : Int)
  /-- A number with a fraction or an exponent, as it is written. -/
  | decimal (literal : Text)
  /-- A text. -/
  | text (value : Text)
  /-- A scalar whose kind is decided by what is asked for. -/
  | plain (scalar : Text)
  /-- A list, which may also give the fields of a record by their positions. -/
  | list (items : List Document)
  /-- A list and nothing else. -/
  | sequence (items : List Document)
  /-- A map. -/
  | map (entries : List (Text × Document))

namespace Document

/-! ### Building documents -/

/-- A count. -/
def count (n : Nat) : Document := .number n

/-- A value that may be absent. -/
def option {α : Type} (f : α → Document) : Option α → Document
  | none => .null
  | some a => f a

/-- A text that may be absent. -/
def optionText (t : Option Text) : Document := option .text t

/-- A list, each item by the same rule. -/
def listOf {α : Type} (f : α → Document) (items : List α) : Document := .list (items.map f)

/-- A record: a map with the given entries. -/
def record (entries : List (String × Document)) : Document :=
  .map (entries.map fun (key, value) => (key.toList, value))

/-! ### Reading documents -/

/-- The spellings of the absent value among plain scalars. -/
def isNullScalar (scalar : Text) : Bool :=
  scalar = [] || scalar = "null" || scalar = "Null" || scalar = "NULL" || scalar = "~"

/-- Whether the document is the absent value. -/
def isNull : Document → Bool
  | .null => true
  | .plain scalar => isNullScalar scalar
  | _ => false

/-- A text.  Any plain scalar is one. -/
def text? : Document → Option Text
  | .text t => some t
  | .plain scalar => some scalar
  | _ => none

/-- A truth value. -/
def flag? : Document → Option Bool
  | .flag b => some b
  | .plain scalar =>
    if scalar = "true" || scalar = "True" || scalar = "TRUE" then some true
    else if scalar = "false" || scalar = "False" || scalar = "FALSE" then some false
    else none
  | _ => none

/-- The value of a run of decimal digits. -/
def digitsValue (t : Text) : Nat := t.foldl (fun n c => 10 * n + (c.toNat - '0'.toNat)) 0

/-- The value of a hexadecimal digit. -/
def hexValue? (c : Char) : Option Nat :=
  if '0' ≤ c ∧ c ≤ '9' then some (c.toNat - '0'.toNat)
  else if 'a' ≤ c ∧ c ≤ 'f' then some (c.toNat - 'a'.toNat + 10)
  else if 'A' ≤ c ∧ c ≤ 'F' then some (c.toNat - 'A'.toNat + 10)
  else none

/-- The value of digits to a base up to sixteen. -/
def baseValue? (base : Nat) (t : Text) : Option Nat :=
  if t = [] then none
  else t.foldlM (fun n c => do
    let d ← hexValue? c
    if d < base then some (n * base + d) else none) 0

/-- The whole number that a plain scalar writes: in decimal notation without a leading zero, or
with the mark of another base. -/
def wholeOfScalar? (scalar : Text) : Option Nat :=
  let digits := match scalar with
    | '+' :: rest => rest
    | _ => scalar
  match digits with
  | '0' :: 'x' :: rest => baseValue? 16 rest
  | '0' :: 'o' :: rest => baseValue? 8 rest
  | '0' :: 'b' :: rest => baseValue? 2 rest
  | '0' :: _ :: _ => none
  | _ => baseValue? 10 digits

/-- A whole number that is not negative. -/
def whole? : Document → Option Nat
  | .number (.ofNat n) => some n
  | .plain scalar => wholeOfScalar? scalar
  | _ => none

/-- A count: a whole number that is not negative and fits in 64 bits. -/
def count? (d : Document) : Option Nat :=
  match whole? d with
  | some n => if n < Nat.pow 2 64 then some n else none
  | none => none

/-- The items of a list.  A plain scalar without characters is a list without items. -/
def list? : Document → Option (List Document)
  | .list items => some items
  | .sequence items => some items
  | .plain [] => some []
  | _ => none

/-- The entries of a map.  A plain scalar without characters is a map without entries. -/
def entries? : Document → Option (List (Text × Document))
  | .map entries => some entries
  | .plain [] => some []
  | _ => none

/-- A list of values of one kind. -/
def listOf? {α : Type} (f : Document → Option α) (d : Document) : Option (List α) := do
  (← list? d).mapM f

/-- A map with values of one kind. -/
def mapOf? {α : Type} (f : Document → Option α) (d : Document) : Option (List (Text × α)) := do
  (← entries? d).mapM fun (key, value) => do return (key, ← f value)

/-- A value that may be absent. -/
def option? {α : Type} (f : Document → Option α) (d : Document) : Option (Option α) :=
  if isNull d then some none else (f d).map some

/-! ### Records -/

/-- A map read as a record, whose fields are looked up by name. -/
abbrev Record := List (Text × Document)

/-- The record that a document holds.  A map holds one if no field occurs in it twice; entries
that are not fields do not matter.  A list of as many items as there are fields holds one too, and
a plain scalar without characters holds the record without fields. -/
def record? (fields : List String) : Document → Option Record
  | .map entries =>
    let known := entries.filter fun (key, _) => fields.any fun field => field.toList = key
    if (known.map (·.1)).eraseDups.length = known.length then some known else none
  | .list items =>
    if items.length = fields.length then some ((fields.map String.toList).zip items) else none
  | .plain [] => some []
  | _ => none

/-- The record that a document holds if every field has a default.  A list may then be shorter. -/
def defaultedRecord? (fields : List String) (d : Document) : Option Record :=
  match d with
  | .list items => record? (fields.take items.length) (.list items)
  | d => record? fields d

namespace Record

/-- The value of a field. -/
def field? (r : Record) (field : String) : Option Document :=
  (List.find? (fun (key, _) => key = field.toList) r).map (·.2)

/-- A field that has to be there. -/
def required {α : Type} (r : Record) (field : String) (f : Document → Option α) : Option α := do
  f (← r.field? field)

/-- A field with a default for the case that it is missing. -/
def withDefault {α : Type} (r : Record) (field : String) (f : Document → Option α)
    (default : α) : Option α :=
  match r.field? field with
  | none => some default
  | some d => f d

/-- A field whose value may be absent, and which may be missing. -/
def optional {α : Type} (r : Record) (field : String) (f : Document → Option α) :
    Option (Option α) :=
  r.withDefault field (option? f) none

end Record

end Document

end RuleSheet
