import RuleSheet.Entity.Basic
import RuleSheet.Java.Declaration

/-!
# Entity sources

A generated entity class documents each column with a comment of the form `[column] label` right
above the declaration of its field.  The source is scanned line by line.

## Main definitions

* `RuleSheet.Entity.columnNote?` — the column and the label in the text of a comment.
* `RuleSheet.Entity.Scan` — what the scan has seen, with `Scan.line` for one more line.
* `RuleSheet.Entity.ofSource` — the entity of a source text.
-/

set_option autoImplicit false

namespace RuleSheet.Entity

open Text

/-- The column and the label noted at the start of a text: a non-empty name in square brackets,
and the rest of the line, which has at least one character. -/
def noteHere? : Text → Option (Text × Text)
  | '[' :: rest =>
    let name := rest.takeWhile (· ≠ ']')
    match rest.dropWhile (· ≠ ']') with
    | ']' :: c :: after =>
      if name = [] ∨ c = '\n' then none else some (name, (c :: after).takeWhile (· ≠ '\n'))
    | _ => none
  | _ => none

/-- The first column and label noted in a text. -/
def firstNote? : Text → Option (Text × Text)
  | [] => none
  | c :: rest => noteHere? (c :: rest) <|> firstNote? rest

/-- The column and the label that a comment documents.  A note whose column or label is blank
documents nothing. -/
def columnNote? (comment : Text) : Option (Text × Text) := do
  let (name, label) ← firstNote? comment
  let column := trim name
  let label := trim label
  if column = [] ∨ label = [] then none else some (column, label)

/-- The state of a scan. -/
structure Scan where
  /-- What has been extracted so far. -/
  entity : Entity
  /-- The lines of the comment that is open, if one is. -/
  comment : Option (List Text)
  /-- Whether the last field still waits for its declaration. -/
  awaiting : Bool
  deriving DecidableEq, Repr

namespace Scan

/-- Before the first line. -/
def start : Scan := ⟨.empty, none, false⟩

/-- The fields with a declared type given to the last one. -/
def typeLast (declared : Text) : List Field → List Field
  | [] => []
  | [f] => [f.withType declared]
  | f :: rest => f :: typeLast declared rest

/-- The end of a comment with the given lines.  If it documents a column, a field is added and
waits for its declaration. -/
def close (s : Scan) (lines : List Text) : Scan :=
  match columnNote? (join ['\n'] lines) with
  | none => { s with comment := none }
  | some (column, label) =>
    { entity := { s.entity with fields := s.entity.fields ++ [.ofColumn column label] },
      comment := none, awaiting := true }

/-- The texts that are not empty. -/
def nonEmpty (t : Text) : List Text := if t = [] then [] else [t]

/-- A line that opens a documentation comment, without its opening mark. -/
def openComment (s : Scan) (rest : Text) : Scan :=
  match cut? "*/" rest with
  | some (body, _) => s.close [trim body]
  | none => { s with comment := some (nonEmpty (trim rest)) }

/-- A line inside a comment with the given lines. -/
def continueComment (s : Scan) (lines : List Text) (line : Text) : Scan :=
  match cut? "*/" line with
  | some (body, _) => s.close (lines ++ nonEmpty (trim (trimStartBy (· = '*') body)))
  | none =>
    match line with
    | '*' :: body => { s with comment := some (lines ++ [trim body]) }
    | _ => s

/-- A line outside of comments. -/
def code (s : Scan) (line : Text) : Scan :=
  if s.awaiting then
    match Java.declaration? line with
    | some d =>
      { s with
        entity := { s.entity with fields := typeLast d.type s.entity.fields }
        awaiting := false }
    | none => s
  else s

/-- A line that is not the header of the class. -/
def body (s : Scan) (line : Text) : Scan :=
  match after? "/**" line with
  | some rest => s.openComment rest
  | none =>
    match s.comment with
    | some lines => s.continueComment lines line
    | none => s.code line

/-- The scan after one more line.  The first class header names the entity, wherever it stands. -/
def line (s : Scan) (raw : Text) : Scan :=
  let line := trim raw
  match s.entity.className, Java.className? line with
  | none, some name => { s with entity := { s.entity with className := some name } }
  | _, _ => s.body line

end Scan

/-- The entity of a source text. -/
def ofSource (source : Text) : Entity := ((lines source).foldl Scan.line .start).entity

end RuleSheet.Entity
