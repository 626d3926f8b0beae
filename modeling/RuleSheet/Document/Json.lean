import RuleSheet.Document.Basic

/-!
# Documents in JSON

Writing a document as JSON, on one line or indented, and reading one back.

## Main definitions

* `RuleSheet.Document.toJson`, `toJsonPretty` — the compact and the indented form.
* `RuleSheet.Document.ofJson?` — the document of a JSON text.

## Design

The reader takes a bound on the nesting of lists and maps, and refuses what is nested deeper.  The
same bound is the argument that its recursion descends on.
-/

set_option autoImplicit false

namespace RuleSheet.Document

/-! ### Writing -/

/-- A hexadecimal digit, in lower case. -/
def hexDigit (n : Nat) : Char :=
  if n < 10 then Char.ofNat ('0'.toNat + n) else Char.ofNat ('a'.toNat + (n - 10))

/-- One character of a quoted text. -/
def escapeChar (c : Char) : Text :=
  if c = '"' then "\\\""
  else if c = '\\' then "\\\\"
  else if c = '\x08' then "\\b"
  else if c = '\t' then "\\t"
  else if c = '\n' then "\\n"
  else if c = '\x0c' then "\\f"
  else if c = '\r' then "\\r"
  else if c.toNat < 0x20 then "\\u00" ++ [hexDigit (c.toNat / 16), hexDigit (c.toNat % 16)]
  else [c]

/-- A quoted text. -/
def quote (t : Text) : Text := '"' :: t.flatMap escapeChar ++ ['"']

/-- A whole number in decimal notation. -/
def integerText (n : Int) : Text := (toString n).toList

/-- A scalar in JSON; lists and maps have forms of their own. -/
def scalarJson : Document → Text
  | .flag b => if b then "true" else "false"
  | .number n => integerText n
  | .decimal literal => literal
  | .text t => quote t
  | .plain scalar => quote scalar
  | _ => "null"

mutual

/-- The document on one line. -/
def toJson : Document → Text
  | .list items => '[' :: itemsJson items ++ [']']
  | .sequence items => '[' :: itemsJson items ++ [']']
  | .map entries => '\x7b' :: entriesJson entries ++ ['\x7d']
  | scalar => scalarJson scalar

/-- The items of a list on one line. -/
def itemsJson : List Document → Text
  | [] => []
  | [d] => toJson d
  | d :: rest => toJson d ++ ',' :: itemsJson rest

/-- The entries of a map on one line. -/
def entriesJson : List (Text × Document) → Text
  | [] => []
  | [(key, d)] => quote key ++ ':' :: toJson d
  | (key, d) :: rest => quote key ++ ':' :: toJson d ++ ',' :: entriesJson rest

end

/-- A new line with the indentation of a nesting depth. -/
def indentation (depth : Nat) : Text := '\n' :: List.replicate (2 * depth) ' '

mutual

/-- The document over several lines, at a nesting depth. -/
def prettyAt (depth : Nat) : Document → Text
  | .list [] => "[]"
  | .list items => '[' :: prettyItems (depth + 1) items ++ indentation depth ++ [']']
  | .sequence [] => "[]"
  | .sequence items => '[' :: prettyItems (depth + 1) items ++ indentation depth ++ [']']
  | .map [] => "\x7b\x7d"
  | .map entries => '\x7b' :: prettyEntries (depth + 1) entries ++ indentation depth ++ ['\x7d']
  | scalar => scalarJson scalar

/-- The items of a list, one to a line. -/
def prettyItems (depth : Nat) : List Document → Text
  | [] => []
  | [d] => indentation depth ++ prettyAt depth d
  | d :: rest => indentation depth ++ prettyAt depth d ++ ',' :: prettyItems depth rest

/-- The entries of a map, one to a line. -/
def prettyEntries (depth : Nat) : List (Text × Document) → Text
  | [] => []
  | [(key, d)] => indentation depth ++ quote key ++ ": " ++ prettyAt depth d
  | (key, d) :: rest =>
    indentation depth ++ quote key ++ ": " ++ prettyAt depth d ++ ',' :: prettyEntries depth rest

end

/-- The document over several lines, indented by two spaces for each level. -/
def toJsonPretty (d : Document) : Text := prettyAt 0 d

/-! ### Reading -/

/-- The white space of JSON. -/
def isJsonBlank (c : Char) : Bool := c = ' ' || c = '\t' || c = '\n' || c = '\r'

/-- The text without leading white space. -/
def skipJsonBlank (t : Text) : Text := t.dropWhile isJsonBlank

/-- The value of four hexadecimal digits. -/
def hex4? (a b c d : Char) : Option Nat := do
  return (((← hexValue? a) * 16 + (← hexValue? b)) * 16 + (← hexValue? c)) * 16 + (← hexValue? d)

/-- The character of a one-letter escape. -/
def shortEscape? (c : Char) : Option Char :=
  if c = '"' || c = '\\' || c = '/' then some c
  else if c = 'b' then some '\x08'
  else if c = 'f' then some '\x0c'
  else if c = 'n' then some '\n'
  else if c = 'r' then some '\r'
  else if c = 't' then some '\t'
  else none

/-- The rest of a quoted text and what follows it.  A code unit of a surrogate pair is accepted
only together with its partner. -/
def quotedRest? : Text → Option (Text × Text)
  | [] => none
  | '"' :: rest => some ([], rest)
  | '\\' :: 'u' :: a :: b :: c :: d :: '\\' :: 'u' :: e :: f :: g :: h :: rest =>
    match hex4? a b c d, hex4? e f g h with
    | some hi, some lo =>
      if 0xD800 ≤ hi ∧ hi < 0xDC00 then
        if 0xDC00 ≤ lo ∧ lo < 0xE000 then
          consChar (Char.ofNat (0x10000 + (hi - 0xD800) * 0x400 + (lo - 0xDC00)))
            (quotedRest? rest)
        else none
      else if 0xDC00 ≤ hi ∧ hi < 0xE000 then none
      else consChar (Char.ofNat hi) (quotedRest? ('\\' :: 'u' :: e :: f :: g :: h :: rest))
    | _, _ => none
  | '\\' :: 'u' :: a :: b :: c :: d :: rest =>
    match hex4? a b c d with
    | some n =>
      if 0xD800 ≤ n ∧ n < 0xE000 then none else consChar (Char.ofNat n) (quotedRest? rest)
    | none => none
  | '\\' :: c :: rest =>
    match shortEscape? c with
    | some d => consChar d (quotedRest? rest)
    | none => none
  | c :: rest => if c.toNat < 0x20 || c = '\\' then none else consChar c (quotedRest? rest)
where
  /-- Puts a character before the text that was read. -/
  consChar (c : Char) : Option (Text × Text) → Option (Text × Text)
    | none => none
    | some (t, rest) => some (c :: t, rest)

/-- A fraction: a point and digits. -/
def fraction? (t : Text) : Option (Text × Text) :=
  match t with
  | '.' :: rest =>
    let digits := rest.takeWhile Char.isDigit
    if digits = [] then none else some ('.' :: digits, rest.dropWhile Char.isDigit)
  | _ => some ([], t)

/-- An exponent: a letter, a sign, and digits. -/
def exponent? (t : Text) : Option (Text × Text) :=
  match t with
  | e :: rest =>
    if e = 'e' || e = 'E' then
      let (sign, rest) := match rest with
        | '+' :: more => ("+".toList, more)
        | '-' :: more => ("-".toList, more)
        | _ => ([], rest)
      let digits := rest.takeWhile Char.isDigit
      if digits = [] then none else some (e :: sign ++ digits, rest.dropWhile Char.isDigit)
    else some ([], t)
  | [] => some ([], [])

/-- A number and what follows it.  A zero with a sign is no whole number. -/
def number? (t : Text) : Option (Document × Text) := do
  let (sign, body) := match t with
    | '-' :: rest => ("-".toList, rest)
    | _ => ([], t)
  let digits := body.takeWhile Char.isDigit
  let rest := body.dropWhile Char.isDigit
  match digits with
  | [] => none
  | '0' :: _ :: _ => none
  | _ =>
    let (fraction, rest) ← fraction? rest
    let (exponent, rest) ← exponent? rest
    let whole := fraction = [] ∧ exponent = []
    if whole ∧ sign = [] then return (.number (digitsValue digits), rest)
    else if whole ∧ digits ≠ ['0'] then return (.number (-(digitsValue digits : Int)), rest)
    else return (.decimal (sign ++ digits ++ fraction ++ exponent), rest)

mutual

/-- A value and what follows it.  `depth` bounds the nesting, `fuel` the length of every list. -/
def value? (fuel : Nat) (depth : Nat) (t : Text) : Option (Document × Text) :=
  match fuel with
  | 0 => none
  | fuel + 1 =>
    match skipJsonBlank t with
    | '"' :: rest => (quotedRest? rest).map fun (s, rest) => (.text s, rest)
    | '[' :: rest =>
      if depth = 0 then none
      else match skipJsonBlank rest with
        | ']' :: rest => some (.list [], rest)
        | _ => (items? fuel (depth - 1) rest).map fun (items, rest) => (.list items, rest)
    | '\x7b' :: rest =>
      if depth = 0 then none
      else match skipJsonBlank rest with
        | '\x7d' :: rest => some (.map [], rest)
        | _ => (members? fuel (depth - 1) rest).map fun (entries, rest) => (.map entries, rest)
    | 't' :: 'r' :: 'u' :: 'e' :: rest => some (.flag true, rest)
    | 'f' :: 'a' :: 'l' :: 's' :: 'e' :: rest => some (.flag false, rest)
    | 'n' :: 'u' :: 'l' :: 'l' :: rest => some (.null, rest)
    | t => number? t

/-- The items of a list up to its closing bracket. -/
def items? (fuel : Nat) (depth : Nat) (t : Text) : Option (List Document × Text) :=
  match fuel with
  | 0 => none
  | fuel + 1 => do
    let (d, rest) ← value? fuel depth t
    match skipJsonBlank rest with
    | ',' :: rest =>
      let (items, rest) ← items? fuel depth rest
      return (d :: items, rest)
    | ']' :: rest => return ([d], rest)
    | _ => none

/-- The entries of a map up to its closing brace. -/
def members? (fuel : Nat) (depth : Nat) (t : Text) : Option (List (Text × Document) × Text) :=
  match fuel with
  | 0 => none
  | fuel + 1 => do
    match skipJsonBlank t with
    | '"' :: rest =>
      let (key, rest) ← quotedRest? rest
      match skipJsonBlank rest with
      | ':' :: rest =>
        let (d, rest) ← value? fuel depth rest
        match skipJsonBlank rest with
        | ',' :: rest =>
          let (entries, rest) ← members? fuel depth rest
          return ((key, d) :: entries, rest)
        | '\x7d' :: rest => return ([(key, d)], rest)
        | _ => none
      | _ => none
    | _ => none

end

/-- Lists and maps may be nested this deep. -/
def nestingLimit : Nat := 127

/-- The document of a JSON text.  Every step of the reader takes a character, so the length of the
text bounds their number. -/
def ofJson? (t : Text) : Option Document :=
  match value? (2 * t.length + 2) nestingLimit t with
  | some (d, rest) => if skipJsonBlank rest = [] then some d else none
  | none => none

end RuleSheet.Document
