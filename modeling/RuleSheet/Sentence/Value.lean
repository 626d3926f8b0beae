import RuleSheet.Reference

/-!
# Values in sentences

How a rule line says what is assigned.  There are two ways: `に…を代入します。` and `＝…。`.  The
full stop may be missing, and the verb may be short.

## Main definitions

* `RuleSheet.Sentence.assignedTo?`, `equalsValue?` — the value in each of the two ways.
* `RuleSheet.Sentence.quoted?` — the text of a quoted literal.
* `RuleSheet.Sentence.bit?` — the first `'0'` or `'1'` in a text.
* `RuleSheet.Sentence.Copy`, `copy?` — a sentence that assigns one reference to another.
-/

set_option autoImplicit false

namespace RuleSheet.Sentence

open Text

/-- The characters that end a sentence. -/
def isStop (c : Char) : Bool := c = '。' || c = '．' || c = '.'

/-- Whether nothing but blanks and at most one stop is left. -/
def isOver (t : Text) : Bool :=
  match trimStart t with
  | [] => true
  | [c] => isStop c
  | _ => false

/-- Whether the text is the verb of assignment, up to the end of the sentence. -/
def isAssignment (t : Text) : Bool :=
  match after? "代入" t with
  | none => false
  | some rest => isOver ((after? "します" rest <|> after? "する" rest).getD rest)

/-- On which side a text is filled up when it is assigned. -/
inductive Alignment where
  /-- The text stands at the right. -/
  | right
  /-- The text stands at the left. -/
  | left
  deriving DecidableEq, Repr

/-- The alignment at the start of a text, if there is one, and the rest. -/
def alignment (t : Text) : Option Alignment × Text :=
  match after? "右詰で" t, after? "左詰で" t with
  | some rest, _ => (some .right, rest)
  | none, some rest => (some .left, rest)
  | none, none => (none, t)

/-- The operand in a stretch of text, without the blanks around it.  It stays on one line.  In a
stretch of blanks the last one that is not a line feed is the operand. -/
def operand? (stretch : Text) : Option Text :=
  if trim stretch = [] then ((stretch.filter (· ≠ '\n')).getLast?).map ([·])
  else if '\n' ∈ trim stretch then none
  else some (trim stretch)

/-- The value in `に…を代入します。`, with or without an alignment. -/
def assignedTo? (rest : Text) : Option Text := do
  let body ← after? "に" (trim rest)
  let (stretch, verb) ← cutLast? "を" body
  if isAssignment (alignment verb).2 then operand? stretch else none

/-- The text without a stop at its end and the blanks before it.  A stop alone stays. -/
def dropStop (t : Text) : Text :=
  match t.getLast? with
  | none => t
  | some c => if isStop c ∧ trimEnd t.dropLast ≠ [] then trimEnd t.dropLast else t

/-- The value in `＝…。`.  It stays on one line. -/
def equalsValue? (rest : Text) : Option Text :=
  match trim rest with
  | [] => none
  | c :: body =>
    let value := dropStop (trimStart body)
    if (c = '＝' ∨ c = '=') ∧ value ≠ [] ∧ '\n' ∉ value then some value else none

/-- The value in either of the two ways. -/
def assignedValue? (rest : Text) : Option Text := assignedTo? rest <|> equalsValue? rest

/-- The pairs of quotes. -/
def quotes : List (Char × Char) := [('"', '"'), ('\'', '\''), ('“', '”'), ('‘', '’'), ('＇', '＇')]

/-- The text of a quoted literal. -/
def quoted? (t : Text) : Option Text :=
  quotes.findSome? fun (opening, closing) => do before? [closing] (← after? [opening] (trim t))

/-- The quotes around a bit. -/
def isBitQuote (c : Char) : Bool := c = '\'' || c = '＇' || c = '‘' || c = '’'

/-- The value of a bit in either width. -/
def bitValue? (c : Char) : Option Bool :=
  if c = '1' || c = '１' then some true else if c = '0' || c = '０' then some false else none

/-- The bit in quotes at the start of a text. -/
def bitHere? : Text → Option Bool
  | a :: b :: c :: _ => if isBitQuote a && isBitQuote c then bitValue? b else none
  | _ => none

/-- The first bit in quotes. -/
def bit? : Text → Option Bool
  | [] => none
  | c :: rest => bitHere? (c :: rest) <|> bit? rest

/-! ### Copies -/

/-- A sentence that assigns one reference, or a slice of it, to another. -/
structure Copy where
  /-- What is assigned to. -/
  target : Reference
  /-- What is assigned. -/
  source : Reference
  /-- The first character and the number of characters of the slice. -/
  slice : Option (Text × Text)
  /-- The side on which it stands. -/
  aligned : Option Alignment
  deriving DecidableEq, Repr

/-- A non-empty run of digits at the start of a text, and the rest. -/
def digits? (t : Text) : Option (Text × Text) :=
  if t.takeWhile isDigit = [] then none else some (t.takeWhile isDigit, t.dropWhile isDigit)

/-- The slice in `の…文字目から…文字`, and the rest. -/
def slice? (t : Text) : Option ((Text × Text) × Text) := do
  let (first, t) ← digits? (trimStart (← after? "の" t))
  let (length, t) ← digits? (trimStart (← after? "文字目から" (trimStart t)))
  return ((first, length), ← after? "文字" (trimStart t))

/-- The slice at the start of a text, if there is one, and the rest. -/
def slice (t : Text) : Option (Text × Text) × Text :=
  match slice? t with
  | some (s, rest) => (some s, rest)
  | none => (none, t)

/-- A line that assigns one reference to another. -/
def copy? (line : Text) : Option Copy := do
  let (target, t) ← Reference.bracketed? line
  let (source, t) ← Reference.bracketed? (trimStart (← after? "に" (trimStart t)))
  let (part, t) := slice (trimStart t)
  let (aligned, t) := alignment (trimStart (← after? "を" (trimStart t)))
  if isAssignment (trimStart t) then
    return ⟨← Reference.ofContent? target, ← Reference.ofContent? source, part, aligned⟩
  else none

end RuleSheet.Sentence
