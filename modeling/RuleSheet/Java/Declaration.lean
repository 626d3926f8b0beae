import RuleSheet.Text.Word

/-!
# Declarations in Java sources

Entity classes and variable definitions are read line by line.  Two shapes of line matter: the
declaration of a private field, `private final List<String> names = null;`, and the header of a
public class, `public abstract class Name`.

## Main definitions

* `RuleSheet.Java.Declaration` — a private field: its type, its name, its initial value.
* `RuleSheet.Java.declaration?` — the declaration that a line starts with.
* `RuleSheet.Java.className?` — the class whose header stands in a line.

## Design

The arguments of a generic type may hold closing angle brackets themselves, so where they end is
decided by what follows: the last bracket that leaves a declaration wins.
-/

set_option autoImplicit false

namespace RuleSheet.Java

open Text

/-- The declaration of a private field. -/
structure Declaration where
  /-- The declared type, with type arguments and array brackets. -/
  type : Text
  /-- The name of the field. -/
  name : Text
  /-- The text of the initial value. -/
  initial : Option Text
  deriving DecidableEq, Repr

/-- The characters that a name may start with. -/
def isNameStart (c : Char) : Bool :=
  ('A' ≤ c && c ≤ 'Z') || ('a' ≤ c && c ≤ 'z') || c = '_'

/-- What follows one or more blanks. -/
def afterBlanks? : Text → Option Text
  | [] => none
  | c :: rest => if isBlank c then some (trimStart rest) else none

/-- What follows a word and one or more blanks. -/
def afterWord? (word t : Text) : Option Text := do afterBlanks? (← after? word t)

/-- The ways in which type arguments can end, the longest first: a closing angle bracket before
any semicolon and any equals sign. -/
def argumentEnds : Text → List (Text × Text)
  | [] => []
  | c :: rest =>
    if c = ';' || c = '=' then []
    else
      let longer := (argumentEnds rest).map fun (inside, after) => (c :: inside, after)
      if c = '>' then longer ++ [(['>'], rest)] else longer

/-- The ways in which a type name, with type arguments if it has any, can end. -/
def typeEnds (t : Text) : List (Text × Text) :=
  let isPart (c : Char) : Bool := isWord c || c = '.'
  let head := t.takeWhile isPart
  match t.dropWhile isPart with
  | '<' :: rest => (argumentEnds rest).map fun (inside, after) => (head ++ '<' :: inside, after)
  | rest => [(head, rest)]

/-- The array brackets at the start of a text, and the rest. -/
def dimensions : Text → Text × Text
  | '[' :: ']' :: rest =>
    let (more, after) := dimensions rest
    ('[' :: ']' :: more, after)
  | t => ([], t)

/-- The initial value after the name of a field: none, or the text between an equals sign and the
first semicolon. -/
def initial? (t : Text) : Option (Option Text) :=
  match trimStart t with
  | ';' :: _ => some none
  | '=' :: rest =>
    (cutBy? (· = ';') rest).map fun (value, _) =>
      let value := trim value
      if value = [] then none else some value
  | _ => none

/-- The name and the initial value after the type of a field. -/
def declarator? (type t : Text) : Option Declaration := do
  let (brackets, rest) := dimensions t
  let rest ← afterBlanks? rest
  match rest with
  | [] => none
  | c :: _ =>
    if isNameStart c then
      let initial ← initial? (rest.dropWhile isWord)
      return ⟨type ++ brackets, rest.takeWhile isWord, initial⟩
    else none

/-- A type, a name and an initial value. -/
def typed? (t : Text) : Option Declaration :=
  match t with
  | [] => none
  | c :: _ =>
    if isNameStart c then (typeEnds t).findSome? fun (type, rest) => declarator? type rest
    else none

/-- The declaration of a private field that a line starts with.  `final` is a modifier if a
declaration follows it, and a type otherwise. -/
def declaration? (line : Text) : Option Declaration := do
  let rest ← afterWord? "private" (trim line)
  (do typed? (← afterWord? "final" rest)) <|> typed? rest

/-- What follows any number of class modifiers.  Each takes at least one character, so the length
of the text bounds their number. -/
def afterModifiers (bound : Nat) (t : Text) : Text :=
  match bound with
  | 0 => t
  | bound + 1 =>
    match afterWord? "abstract" t <|> afterWord? "final" t with
    | some rest => afterModifiers bound rest
    | none => t

/-- The class whose header a text starts with. -/
def classHeader? (t : Text) : Option Text := do
  let rest ← afterWord? "public" t
  let rest ← afterWord? "class" (afterModifiers rest.length rest)
  let name := rest.takeWhile isWord
  if name = [] then none else some name

/-- The class whose header stands first in a line. -/
def className? : Text → Option Text
  | [] => none
  | c :: rest => classHeader? (c :: rest) <|> className? rest

end RuleSheet.Java
