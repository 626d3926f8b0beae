import RuleSheet.Text.Digits

/-!
# References

Rule lines refer to data in corner brackets, with the word `項目` before them or without it:

* `項目「手袋(Ｌ０１).(請求コード)」` — the field of an entity, by its label;
* `項目「D\区分」` — a variable, with a one-letter category;
* `項目「*変更フラグ」` — a flag.

## Main definitions

* `RuleSheet.Reference` — the three forms.
* `RuleSheet.Reference.content` — a reference in its notation, between the brackets.
* `RuleSheet.Reference.ofContent?`, `ofToken?`, `leading?` — a reference read from the text
  between the brackets, from a whole token, and from the start of a line.
* `RuleSheet.Reference.occursIn` — whether a text holds a reference.
* `RuleSheet.isBlankWord`, `mentionsBlank` — the word for an empty value.
-/

set_option autoImplicit false

namespace RuleSheet

open Text

/-- What a rule line can refer to. -/
inductive Reference where
  /-- The field of an entity. -/
  | field (entity label : Text)
  /-- A variable with its category. -/
  | variable (category : Char) (name : Text)
  /-- A flag. -/
  | flag (name : Text)
  deriving DecidableEq, Repr

namespace Reference

/-! ### Writing -/

/-- The text between the brackets. -/
def content : Reference → Text
  | .field entity label => entity ++ ".(" ++ label ++ ")"
  | .variable category name => category :: '\\' :: name
  | .flag name => '*' :: name

/-! ### Reading -/

/-- The letters of ASCII. -/
def isAsciiLetter (c : Char) : Bool := ('A' ≤ c && c ≤ 'Z') || ('a' ≤ c && c ≤ 'z')

/-- The field of an entity, from the text between the brackets: an identifier, and a label without
round brackets in `.(` and `)` at the end. -/
def fieldOfContent? (t : Text) : Option Reference := do
  let body ← before? [')'] t
  let (owner, label) ← cutLast? ['('] body
  let entity ← before? ['.'] owner
  if label = [] ∨ ')' ∈ label ∨ entity = [] ∨ '\n' ∈ entity then none
  else if trim entity = [] ∨ trim label = [] then none
  else some (.field (trim entity) (trim label))

/-- A reference from the text between the brackets. -/
def ofContent? (t : Text) : Option Reference :=
  match trim t with
  | '*' :: name => if trim name = [] then none else some (.flag (trim name))
  | category :: '\\' :: name =>
    if isAsciiLetter category then
      if trim name = [] then none else some (.variable category (trim name))
    else fieldOfContent? (category :: '\\' :: name)
  | t => fieldOfContent? t

/-- The text between the brackets at the start of a text, and what follows them. -/
def bracketed? (t : Text) : Option (Text × Text) := do
  let inner ← after? "項目「" t <|> after? "「" t
  let (inside, _, rest) ← cutBy? (· = '」') inner
  return (inside, rest)

/-- A token that consists of one reference. -/
def ofToken? (token : Text) : Option Reference :=
  match bracketed? (trim token) with
  | some (inside, []) => ofContent? inside
  | _ => none

/-- The reference at the start of a line, and what follows it. -/
def leading? (line : Text) : Option (Reference × Text) := do
  let (inside, rest) ← bracketed? line
  return (← ofContent? inside, rest)

/-- The texts in corner brackets, given what has been read, latest first, of the one that is
open. -/
def contentsFrom (opened : Option Text) : Text → List Text
  | [] => []
  | c :: rest =>
    match opened with
    | none => contentsFrom (if c = '「' then some [] else none) rest
    | some inside =>
      if c = '」' then inside.reverse :: contentsFrom none rest
      else contentsFrom (some (c :: inside)) rest

/-- Whether a text holds a reference. -/
def occursIn (t : Text) : Bool := (contentsFrom none t).any fun inside => (ofContent? inside).isSome

end Reference

/-! ### The word for an empty value -/

/-- The spellings of the word for an empty value. -/
def blankWords : List Text := ["ブランク", "ﾌﾞﾗﾝｸ"]

/-- Whether a text is the word for an empty value. -/
def isBlankWord (t : Text) : Bool := blankWords.any fun word => trim t = word

/-- Whether a text mentions the word for an empty value. -/
def mentionsBlank (t : Text) : Bool := blankWords.any fun word => Text.contains t word

end RuleSheet
