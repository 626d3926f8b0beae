import RuleSheet.Document.Yaml.Scalar

/-!
# Writing YAML

A document over several lines: entries and items one below the other, nested maps indented by two
spaces, and the items of a list no deeper than the key they belong to.

## Main definitions

* `RuleSheet.Document.toYaml` — the document in YAML.
-/

set_option autoImplicit false

namespace RuleSheet.Yaml

open Text

/-- A scalar, an empty list or an empty map: what stands on the line of its key. -/
def inline (indent : Nat) : Document → Text
  | .null => "null"
  | .flag b => if b then "true" else "false"
  | .number n => Document.integerText n
  | .decimal literal => literal
  | .text t => scalar false indent t
  | .plain t => scalar false indent t
  | .list _ => "[]"
  | .sequence _ => "[]"
  | .map _ => "\x7b\x7d"

/-- The text with a line feed at its end, unless it ends a line already. -/
def endLine (t : Text) : Text := if endsIn isBreak t.getLast? then t else t ++ ['\n']

/-- The longest key, in bytes, that may stand in front of a colon. -/
def keyLimit : Nat := 128

/-- Whether a key can stand in front of a colon. -/
def isSimpleKey (key : Text) : Bool :=
  !key.any isBreak && (String.ofList key).utf8ByteSize ≤ keyLimit

/-- The spaces in front of a line. -/
def margin (indent : Nat) : Text := List.replicate indent ' '

/-- A key with its colon.  One that cannot stand in front of a colon has a question mark in front of
it and the colon on a line of its own. -/
def keyText (indent : Nat) (key : Text) : Text :=
  if isSimpleKey key then scalar true (indent + 2) key ++ [':']
  else "? " ++ endLine (scalar false (indent + 2) key) ++ margin indent ++ [':']

mutual

/-- What follows a key, with the end of the line. -/
def valueText (indent : Nat) : Document → Text
  | .list (d :: rest) => '\n' :: itemsText (margin indent) indent (d :: rest)
  | .sequence (d :: rest) => '\n' :: itemsText (margin indent) indent (d :: rest)
  | .map (e :: rest) => '\n' :: entriesText (margin (indent + 2)) (indent + 2) (e :: rest)
  | d => ' ' :: endLine (inline (indent + 2) d)

/-- What follows the dash of an item, with the end of the line. -/
def itemText (indent : Nat) : Document → Text
  | .list (d :: rest) => itemsText [] (indent + 2) (d :: rest)
  | .sequence (d :: rest) => itemsText [] (indent + 2) (d :: rest)
  | .map (e :: rest) => entriesText [] (indent + 2) (e :: rest)
  | d => endLine (inline (indent + 2) d)

/-- Items, one below the other.  `lead` stands in front of the first. -/
def itemsText (lead : Text) (indent : Nat) : List Document → Text
  | [] => []
  | d :: rest => lead ++ "- " ++ itemText indent d ++ itemsText (margin indent) indent rest

/-- Entries, one below the other.  `lead` stands in front of the first. -/
def entriesText (lead : Text) (indent : Nat) : List (Text × Document) → Text
  | [] => []
  | (key, d) :: rest =>
    lead ++ keyText indent key ++ valueText indent d ++ entriesText (margin indent) indent rest

end

end RuleSheet.Yaml

namespace RuleSheet.Document

/-- The document in YAML. -/
def toYaml : Document → Text
  | .list (d :: rest) => Yaml.itemsText [] 0 (d :: rest)
  | .sequence (d :: rest) => Yaml.itemsText [] 0 (d :: rest)
  | .map (e :: rest) => Yaml.entriesText [] 0 (e :: rest)
  | d => Yaml.endLine (Yaml.inline 2 d)

end RuleSheet.Document
