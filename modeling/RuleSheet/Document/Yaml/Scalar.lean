import RuleSheet.Document.Json

/-!
# Scalars in YAML

How a text is written as a scalar.  A text is written plainly if that reads back as the same text;
otherwise it gets single quotes, double quotes with escapes, or a block of its own.

## Main definitions

* `RuleSheet.Yaml.isAmbiguous` — texts that read as a number, a truth value or the absent value.
* `RuleSheet.Yaml.ScalarForm`, `scalarForm` — the four ways to write a text, and which one is taken.
* `RuleSheet.Yaml.scalar` — the written text.
-/

set_option autoImplicit false

namespace RuleSheet.Yaml

open Text

/-! ### Numbers -/

/-- Digits behind a leading zero, which make no number. -/
def isPadded (t : Text) : Bool :=
  let digits := match t with
    | '-' :: rest | '+' :: rest => rest
    | _ => t
  match digits with
  | '0' :: d :: rest => (d :: rest).all Char.isDigit
  | _ => false

/-- Whether digits to a base follow a mark, with a value up to a limit. -/
def isMarkedNumeral (mark : Text) (base limit : Nat) (t : Text) : Bool :=
  match (after? mark t).bind (Document.baseValue? base) with
  | some n => n ≤ limit
  | none => false

/-- Whether a text without plus sign is a whole number in hexadecimal, octal or binary notation, of
at most 128 bits. -/
def isBasedNumeral (t : Text) : Bool :=
  [(['x'], 16), (['o'], 8), (['b'], 2)].any fun ((letter, base) : Text × Nat) =>
    isMarkedNumeral ('0' :: letter) base (Nat.pow 2 128 - 1) t ||
      isMarkedNumeral ('-' :: '0' :: letter) base (Nat.pow 2 127) t

/-- A decimal numeral: the digits before the point, the digits after it, and the exponent. -/
structure Numeral where
  /-- The digits before the point. -/
  whole : Text
  /-- The digits after the point. -/
  fraction : Text
  /-- The exponent. -/
  exponent : Int
  deriving DecidableEq, Repr

namespace Numeral

/-- The exponent at the end of a numeral. -/
def exponent? (t : Text) : Option Int :=
  match t with
  | [] => some 0
  | e :: rest =>
    if e = 'e' || e = 'E' then
      let (negative, digits) := match rest with
        | '-' :: digits => (true, digits)
        | '+' :: digits => (false, digits)
        | _ => (false, rest)
      if digits = [] || !digits.all Char.isDigit then none
      else
        let n : Int := Document.digitsValue digits
        some (if negative then -n else n)
    else none

/-- The numeral that a text without sign is. -/
def ofText? (t : Text) : Option Numeral := do
  let whole := t.takeWhile Char.isDigit
  let (fraction, rest) := match t.dropWhile Char.isDigit with
    | '.' :: rest => (rest.takeWhile Char.isDigit, rest.dropWhile Char.isDigit)
    | rest => ([], rest)
  if whole = [] ∧ fraction = [] then none
  else return ⟨whole, fraction, ← exponent? rest⟩

/-- Whether the value is below the least number that rounds to infinity in double precision. -/
def isFinite (n : Numeral) : Bool :=
  let digits := (n.whole ++ n.fraction).dropWhile (· = '0')
  let shift : Int := n.exponent - n.fraction.length
  let magnitude : Int := shift + digits.length
  if digits = [] || magnitude ≤ 308 then true
  else if 310 ≤ magnitude then false
  else
    let bound := Nat.pow 2 1024 - Nat.pow 2 970
    let value := Document.digitsValue digits
    if 0 ≤ shift then value * Nat.pow 10 shift.toNat < bound
    else value < bound * Nat.pow 10 (-shift).toNat

end Numeral

/-- Whether a text is a decimal number in double precision, or one of the words for infinity and
for what is not a number. -/
def isDecimal (t : Text) : Bool :=
  let (signed, rest) := match t with
    | '+' :: rest => (true, rest)
    | _ => (false, t)
  let magnitude := match rest with
    | '-' :: digits => if signed then rest else digits
    | _ => rest
  [".inf", ".Inf", ".INF"].any (fun (w : String) => w.toList = magnitude) ||
    [".nan", ".NaN", ".NAN"].any (fun (w : String) => w.toList = t) ||
    match Numeral.ofText? magnitude with
    | some n => n.isFinite
    | none => false

/-- Whether a text reads as something else than a text if it is written plainly. -/
def isAmbiguous (t : Text) : Bool :=
  Document.isNullScalar t || (Document.flag? (.plain t)).isSome || isPadded t ||
    isBasedNumeral ((after? ['+'] t).getD t) || isDecimal t

/-! ### Characters -/

/-- Characters that need no escape. -/
def isPrintable (c : Char) : Bool :=
  let n := c.toNat
  n = 0xA || (0x20 ≤ n && n ≤ 0x7E) || (0xA0 ≤ n && n ≠ 0xFEFF && n ≠ 0xFFFE && n ≠ 0xFFFF)

/-- Line breaks. -/
def isBreak (c : Char) : Bool :=
  c = '\n' || c = '\r' || c.toNat = 0x85 || c.toNat = 0x2028 || c.toNat = 0x2029

/-- White space and line breaks. -/
def isGap (c : Char) : Bool := c = ' ' || c = '\t' || c = '\x00' || isBreak c

/-- Whether a gap or the end of the text comes first. -/
def startsWithGap : Text → Bool
  | [] => true
  | c :: _ => isGap c

/-- Whether a character of one class is followed by a character of another. -/
def hasPair (p q : Char → Bool) : Text → Bool
  | a :: b :: rest => (p a && q b) || hasPair p q (b :: rest)
  | _ => false

/-- Whether a colon before a gap, or a number sign after one, stands behind the first character.
`before` tells whether the character in front was a gap. -/
def hasInnerIndicator (before : Bool) : Text → Bool
  | [] => false
  | c :: rest =>
    (c = ':' && startsWithGap rest) || (c = '#' && before) || hasInnerIndicator (isGap c) rest

/-- Whether the text starts with something that has a meaning of its own at the start of a
scalar. -/
def hasLeadingIndicator : Text → Bool
  | [] => false
  | c :: rest =>
    "#,[]\x7b\x7d&*!|>'\"%@`".toList.contains c ||
      ((c = '?' || c = ':' || c = '-') && startsWithGap rest)

/-- Whether the text contains something that has a meaning of its own outside quotes. -/
def hasIndicator (t : Text) : Bool :=
  startsWith "---" t || startsWith "..." t || hasLeadingIndicator t ||
    match t with
    | [] => false
    | c :: rest => hasInnerIndicator (isGap c) rest

/-- Whether the character at one end is of a class. -/
def endsIn (p : Char → Bool) (c : Option Char) : Bool := (c.map p).getD false

/-! ### Forms -/

/-- The ways to write a text. -/
inductive ScalarForm where
  /-- As it is. -/
  | plain
  /-- Between single quotes. -/
  | single
  /-- Between double quotes, with escapes. -/
  | double
  /-- As a block of lines. -/
  | literal
  deriving DecidableEq, Repr

/-- Whether single quotes are enough: no escapes, and no space next to a line break. -/
def singleSuffices (t : Text) : Bool :=
  t.all isPrintable && !hasPair isBreak (· = ' ') t && !hasPair (· = ' ') isBreak t

/-- Whether no quotes are needed. -/
def plainSuffices (t : Text) : Bool :=
  singleSuffices t && !t.any isBreak && !hasIndicator t && !endsIn (· = ' ') t.head? &&
    !endsIn (· = ' ') t.getLast?

/-- Whether the text can be written as a block of lines. -/
def literalSuffices (t : Text) : Bool :=
  t.all isPrintable && !hasPair (· = ' ') isBreak t && !endsIn (· = ' ') t.getLast?

/-- The form of a text.  A text with line feeds is a block of lines where that is possible; a key
in front of a colon is never one. -/
def scalarForm (isKey : Bool) (t : Text) : ScalarForm :=
  if isKey && t.any isBreak then .double
  else if t.any (· = '\n') then
    if literalSuffices t && !isKey then .literal else .double
  else if !isAmbiguous t && plainSuffices t then .plain
  else if singleSuffices t then .single
  else .double

/-! ### Writing -/

/-- A hexadecimal digit, in upper case. -/
def upperHex (n : Nat) : Char :=
  if n < 10 then Char.ofNat ('0'.toNat + n) else Char.ofNat ('A'.toNat + (n - 10))

/-- The last hexadecimal digits of a number, as many as asked for. -/
def hexDigits : Nat → Nat → Text
  | 0, _ => []
  | count + 1, n => hexDigits count (n / 16) ++ [upperHex (n % 16)]

/-- The characters with an escape of one letter. -/
def letterEscapes : List (Nat × Char) :=
  [(0x0, '0'), (0x7, 'a'), (0x8, 'b'), (0x9, 't'), (0xA, 'n'), (0xB, 'v'), (0xC, 'f'), (0xD, 'r'),
    (0x1B, 'e'), (0x22, '"'), (0x5C, '\\'), (0x85, 'N'), (0x2028, 'L'), (0x2029, 'P')]

/-- One character between double quotes. -/
def escapeChar (c : Char) : Text :=
  let n := c.toNat
  if isPrintable c && !isBreak c && c ≠ '"' && c ≠ '\\' then [c]
  else match letterEscapes.find? fun (code, _) => code = n with
    | some (_, letter) => ['\\', letter]
    | none =>
      if n ≤ 0xFF then '\\' :: 'x' :: hexDigits 2 n
      else if n ≤ 0xFFFF then '\\' :: 'u' :: hexDigits 4 n
      else '\\' :: 'U' :: hexDigits 8 n

/-- The text with spaces in front of each character that follows a line break.  `fresh` tells
whether a line break came last. -/
def indentLines (indent : Nat) (fresh : Bool) : Text → Text
  | [] => []
  | c :: rest =>
    if isBreak c then c :: indentLines indent true rest
    else (if fresh then List.replicate indent ' ' else []) ++ c :: indentLines indent false rest

/-- The text between single quotes.  A quote is written twice. -/
def singleQuoted (indent : Nat) (t : Text) : Text :=
  let body := indentLines indent false (t.flatMap fun c => if c = '\'' then ['\'', '\''] else [c])
  let last := if endsIn isBreak t.getLast? then List.replicate indent ' ' else []
  '\'' :: body ++ last ++ ['\'']

/-- The text between double quotes. -/
def doubleQuoted (t : Text) : Text := '"' :: t.flatMap escapeChar ++ ['"']

/-- What stands behind the bar of a block of lines: the indentation if it cannot be seen, and what
becomes of line breaks at the end. -/
def literalHints (t : Text) : Text :=
  let lead := if endsIn (fun c => c = ' ' || isBreak c) t.head? then ['2'] else []
  let chomp := match t.reverse with
    | [] => ['-']
    | [c] => if isBreak c then ['+'] else ['-']
    | c :: d :: _ => if !isBreak c then ['-'] else if isBreak d then ['+'] else []
  lead ++ chomp

/-- The text as a block of lines. -/
def literal (indent : Nat) (t : Text) : Text :=
  '|' :: literalHints t ++ '\n' :: indentLines indent true t

/-- A text as a scalar whose further lines are indented. -/
def scalar (isKey : Bool) (indent : Nat) (t : Text) : Text :=
  match scalarForm isKey t with
  | .plain => t
  | .single => singleQuoted indent t
  | .double => doubleQuoted t
  | .literal => literal indent t

end RuleSheet.Yaml
