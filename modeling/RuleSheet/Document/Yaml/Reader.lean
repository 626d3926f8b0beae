import RuleSheet.Document.Yaml.Scalar

/-!
# Reading YAML

The document of a settings file.  Maps and lists are nested by indentation or written between
braces and brackets; scalars are plain or quoted.  Anchors, tags and blocks of lines are refused.

## Main definitions

* `RuleSheet.Yaml.SourceLine` — a line with its indentation.
* `RuleSheet.Yaml.flowValue?` — a value between brackets or braces, or a scalar inside one.
* `RuleSheet.Yaml.blockNode?` — a value over lines.
* `RuleSheet.Document.ofYaml?` — the document of a text.

## Design

The text is first cut into lines that are neither blank nor comments.  The readers then take lines
or characters from the front and return the rest; a bound on the number of their steps, which the
length of the text gives, is the argument that their recursion descends on.
-/

set_option autoImplicit false

namespace RuleSheet.Yaml

open Text

/-! ### Lines -/

/-- A line: the number of spaces in front, and what follows them. -/
structure SourceLine where
  /-- The number of spaces in front. -/
  indent : Nat
  /-- What follows the spaces. -/
  content : Text
  deriving DecidableEq, Repr

/-- Characters that a text may hold. -/
def isAllowed (c : Char) : Bool :=
  let n := c.toNat
  n = 0x9 || n = 0xA || n = 0xD || (0x20 ≤ n && n ≤ 0x7E) || n = 0x85 ||
    (0xA0 ≤ n && n ≠ 0xFFFE && n ≠ 0xFFFF)

/-- A carriage return with a line feed as one line break. -/
def joinReturns : Text → Text
  | '\r' :: '\n' :: rest => '\n' :: joinReturns rest
  | c :: rest => c :: joinReturns rest
  | [] => []

/-- The line of a text without line breaks. -/
def sourceLine (t : Text) : SourceLine :=
  ⟨(t.takeWhile (· = ' ')).length, t.dropWhile (· = ' ')⟩

/-- Spaces and tabulators. -/
def isSpacing (c : Char) : Bool := c = ' ' || c = '\t'

/-- The text without spacing in front. -/
def skipSpacing (t : Text) : Text := t.dropWhile isSpacing

/-- Whether nothing but spacing and a comment is left of a line. -/
def isLineEnd (t : Text) : Bool :=
  match skipSpacing t with
  | [] => true
  | c :: _ => c = '#'

/-- The lines of a text that are neither blank nor comments; none if a line is indented by
tabulators. -/
def sourceLines? (t : Text) : Option (List SourceLine) :=
  let all := ((joinReturns t).splitOnP isBreak).map sourceLine
  if all.any fun line => line.content.head? = some '\t' then none
  else some (all.filter fun line => !isLineEnd line.content)

/-- Whether a mark stands at the start of a line, alone or before a gap. -/
def isMarked (mark : Text) (line : SourceLine) : Bool :=
  match after? mark line.content with
  | some rest => line.indent = 0 && startsWithGap rest
  | none => false

/-! ### Scalars -/

/-- Whether a plain scalar may start here. -/
def startsPlain : Text → Bool
  | [] => false
  | t => !hasLeadingIndicator t

/-- The rest of a plain scalar and what follows it.  `before` tells whether a gap is in front, and
`stop` which characters end the scalar besides a colon before a gap and a comment after one. -/
def plainRest (stop : Char → Bool) (before : Bool) : Text → Text × Text
  | [] => ([], [])
  | c :: rest =>
    if (c = ':' && startsWithGap rest) || (c = '#' && before) || stop c then ([], c :: rest)
    else
      let (scalar, left) := plainRest stop (isGap c) rest
      (c :: scalar, left)

/-- The plain scalar at the start of a text and what follows it, with one space for every run of
line breaks and the spacing around them. -/
def plainScalar (stop : Char → Bool) (t : Text) : Text × Text :=
  let (scalar, left) := plainRest stop true t
  (join [' '] (((trimBy isGap scalar).splitOn '\n').map (trimBy isSpacing)), left)

/-- The rest of a text between single quotes and what follows it. -/
def singleRest? : Text → Option (Text × Text)
  | [] => none
  | '\'' :: '\'' :: rest => (singleRest? rest).map fun (t, left) => ('\'' :: t, left)
  | '\'' :: rest => some ([], rest)
  | c :: rest => (singleRest? rest).map fun (t, left) => (c :: t, left)

/-- The value of hexadecimal digits that makes a character. -/
def hexChar? (digits : Text) : Option Char := do
  let n ← Document.baseValue? 16 digits
  if n < 0xD800 ∨ (0xE000 ≤ n ∧ n ≤ 0x10FFFF) then some (Char.ofNat n) else none

/-- The character of an escape of one letter. -/
def letterEscape? (letter : Char) : Option Char :=
  if letter = ' ' || letter = '/' then some letter
  else if letter = '_' then some (Char.ofNat 0xA0)
  else (letterEscapes.find? fun (_, l) => l = letter).map fun (code, _) => Char.ofNat code

/-- The number of hexadecimal digits behind the letter of an escape. -/
def escapeLength? (letter : Char) : Option Nat :=
  if letter = 'x' then some 2
  else if letter = 'u' then some 4
  else if letter = 'U' then some 8
  else none

/-- The rest of a text between double quotes and what follows it.  `fuel` bounds the number of its
characters. -/
def doubleRest? : Nat → Text → Option (Text × Text)
  | 0, _ => none
  | _, [] => none
  | fuel + 1, c :: rest =>
    if c = '"' then some ([], rest)
    else if c = '\\' then
      match rest with
      | [] => none
      | letter :: rest =>
        match escapeLength? letter with
        | some n => do
          let d ← if (rest.take n).length = n then hexChar? (rest.take n) else none
          let (t, left) ← doubleRest? fuel (rest.drop n)
          return (d :: t, left)
        | none => do
          let d ← letterEscape? letter
          let (t, left) ← doubleRest? fuel rest
          return (d :: t, left)
    else (doubleRest? fuel rest).map fun (t, left) => (c :: t, left)

/-- A quoted text and what follows it; none if the text does not start with a quote. -/
def quoted? : Text → Option (Text × Text)
  | '\'' :: rest => singleRest? rest
  | '"' :: rest => doubleRest? (rest.length + 1) rest
  | _ => none

/-- Whether the text starts with a quote. -/
def startsQuoted : Text → Bool
  | c :: _ => c = '\'' || c = '"'
  | [] => false

/-! ### Between brackets and braces -/

/-- The text without spacing, line breaks and comments in front.  `comment` tells whether the text
starts inside a comment. -/
def skipFlow (comment : Bool) : Text → Text
  | [] => []
  | c :: rest =>
    if comment then skipFlow (c ≠ '\n') rest
    else if isSpacing c || c = '\n' then skipFlow false rest
    else if c = '#' then skipFlow true rest
    else c :: rest

/-- The characters that have a meaning of their own between brackets. -/
def isFlowMark (c : Char) : Bool :=
  c = ',' || c = '[' || c = ']' || c = '\x7b' || c = '\x7d'

/-- A scalar between brackets and what follows it. -/
def flowScalar? (t : Text) : Option (Document × Text) :=
  if startsQuoted t then (quoted? t).map fun (s, left) => (.text s, left)
  else match t with
    | ':' :: _ | '?' :: _ => none
    | _ =>
      if startsPlain t then
        let (s, left) := plainScalar isFlowMark t
        some (.plain s, left)
      else none

mutual

/-- A value between brackets and what follows it. -/
def flowValue? : Nat → Text → Option (Document × Text)
  | 0, _ => none
  | fuel + 1, t =>
    match skipFlow false t with
    | '[' :: rest => (flowItems? fuel rest).map fun (items, left) => (.sequence items, left)
    | '\x7b' :: rest => (flowEntries? fuel rest).map fun (entries, left) => (.map entries, left)
    | t => flowScalar? t

/-- A value, or a key with its value as a map with one entry. -/
def flowItem? : Nat → Text → Option (Document × Text)
  | 0, _ => none
  | fuel + 1, t => do
    let (d, left) ← flowValue? fuel t
    match skipFlow false left with
    | ':' :: rest =>
      let key ← d.text?
      let (value, left) ← flowEntryValue? fuel rest
      return (.map [(key, value)], left)
    | left => return (d, left)

/-- The items up to the closing bracket. -/
def flowItems? : Nat → Text → Option (List Document × Text)
  | 0, _ => none
  | fuel + 1, t =>
    match skipFlow false t with
    | ']' :: left => some ([], left)
    | t => do
      let (d, left) ← flowItem? fuel t
      match skipFlow false left with
      | ',' :: left =>
        let (items, left) ← flowItems? fuel left
        return (d :: items, left)
      | ']' :: left => return ([d], left)
      | _ => none

/-- What follows the colon of an entry; nothing is the absent value. -/
def flowEntryValue? : Nat → Text → Option (Document × Text)
  | 0, _ => none
  | fuel + 1, t =>
    match skipFlow false t with
    | ',' :: rest => some (.plain [], ',' :: rest)
    | ']' :: rest => some (.plain [], ']' :: rest)
    | '\x7d' :: rest => some (.plain [], '\x7d' :: rest)
    | t => flowValue? fuel t

/-- The entries up to the closing brace. -/
def flowEntries? : Nat → Text → Option (List (Text × Document) × Text)
  | 0, _ => none
  | fuel + 1, t =>
    match skipFlow false t with
    | '\x7d' :: left => some ([], left)
    | t => do
      let (key, left) ← flowScalar? t
      let key ← key.text?
      let (value, left) ← match skipFlow false left with
        | ':' :: rest => flowEntryValue? fuel rest
        | left => some (.plain [], left)
      match skipFlow false left with
      | ',' :: left =>
        let (entries, left) ← flowEntries? fuel left
        return ((key, value) :: entries, left)
      | '\x7d' :: left => return ([(key, value)], left)
      | _ => none

end

/-! ### Over lines -/

/-- Nothing that ends a plain scalar outside brackets. -/
def neverStops (_ : Char) : Bool := false

/-- The key at the start of a line and what follows its colon. -/
def splitKey? (t : Text) : Option (Text × Text) :=
  let colon (key : Text) (left : Text) : Option (Text × Text) :=
    match skipSpacing left with
    | ':' :: rest => if startsWithGap rest then some (key, rest) else none
    | _ => none
  if startsQuoted t then do
    let (key, left) ← quoted? t
    colon key left
  else if startsPlain t then
    let (key, left) := plainScalar neverStops t
    colon key left
  else none

/-- Whether the line is an item of a list. -/
def startsItem : Text → Bool
  | '-' :: rest => startsWithGap rest
  | _ => false

/-- Whether the line starts with the colon of an empty key. -/
def startsEmptyKey : Text → Bool
  | ':' :: rest => startsWithGap rest
  | _ => false

/-- The lines that continue a plain scalar: those with at least an indentation.  None of them may
hold a key; after a comment there are no more. -/
def continuation? (least : Nat) (more : Bool) :
    List SourceLine → Option (List Text × List SourceLine)
  | [] => some ([], [])
  | line :: rest =>
    if line.indent < least then some ([], line :: rest)
    else if !more then none
    else
      let (scalar, left) := plainScalar neverStops line.content
      if !isLineEnd left then none
      else
        (continuation? least (left = []) rest).map fun (others, lines) => (scalar :: others, lines)

/-- A value that starts on the line of its key or dash, and the lines after it. -/
def inlineValue? (least : Nat) (t : Text) (rest : List SourceLine) :
    Option (Document × List SourceLine) :=
  match t with
  | '[' :: _ | '\x7b' :: _ => do
    let all := join ['\n'] (t :: rest.map (·.content))
    let (d, left) ← flowValue? (2 * all.length + 2) all
    let pieces := left.splitOn '\n'
    if isLineEnd (pieces.headD []) then
      return (d, rest.drop (rest.length - (pieces.length - 1)))
    else none
  | _ =>
    if startsQuoted t then do
      let (s, left) ← quoted? t
      if isLineEnd left then return (.text s, rest) else none
    else if startsPlain t then do
      let (scalar, left) := plainScalar neverStops t
      if !isLineEnd left then none
      else
        let (more, rest) ← continuation? least (left = []) rest
        return (.plain (join [' '] (scalar :: more)), rest)
    else none

/-- What stands behind a dash or the colon of an empty key, as a line of its own. -/
def behindMark (line : SourceLine) : SourceLine :=
  let behind := line.content.drop 1
  ⟨line.indent + 1 + (behind.takeWhile isSpacing).length, skipSpacing behind⟩

mutual

/-- A value over lines that are indented at least so far, and the lines after it. -/
def blockNode? : Nat → Nat → List SourceLine → Option (Document × List SourceLine)
  | 0, _, _ => none
  | _, _, [] => some (.plain [], [])
  | fuel + 1, least, line :: rest =>
    if line.indent < least then some (.plain [], line :: rest)
    else if startsItem line.content then
      (blockItems? fuel line.indent (line :: rest)).map fun (items, rest) => (.sequence items, rest)
    else if startsEmptyKey line.content || (splitKey? line.content).isSome then
      (blockEntries? fuel line.indent (line :: rest)).map fun (entries, rest) =>
        (.map entries, rest)
    else inlineValue? least line.content rest

/-- What follows a dash or the colon of an empty key. -/
def markedNode? : Nat → SourceLine → List SourceLine → Option (Document × List SourceLine)
  | 0, _, _ => none
  | fuel + 1, line, rest =>
    let behind := behindMark line
    if isLineEnd behind.content then blockNode? fuel (line.indent + 1) rest
    else blockNode? fuel (line.indent + 1) (behind :: rest)

/-- The items of a list whose dashes have an indentation. -/
def blockItems? : Nat → Nat → List SourceLine → Option (List Document × List SourceLine)
  | 0, _, _ => none
  | _, _, [] => some ([], [])
  | fuel + 1, indent, line :: rest =>
    if line.indent = indent && startsItem line.content then do
      let (d, rest) ← markedNode? fuel line rest
      let (items, rest) ← blockItems? fuel indent rest
      return (d :: items, rest)
    else if indent < line.indent then none
    else some ([], line :: rest)

/-- What follows the colon of a key with an indentation.  The items of a list need not be indented
deeper than the key. -/
def entryValue? : Nat → Nat → Text → List SourceLine → Option (Document × List SourceLine)
  | 0, _, _, _ => none
  | fuel + 1, indent, t, rest =>
    if isLineEnd t then
      match rest with
      | [] => some (.plain [], [])
      | next :: more =>
        if next.indent = indent && startsItem next.content then
          (blockItems? fuel indent (next :: more)).map fun (items, rest) => (.sequence items, rest)
        else blockNode? fuel (indent + 1) (next :: more)
    else inlineValue? (indent + 1) (skipSpacing t) rest

/-- The entries of a map whose keys have an indentation. -/
def blockEntries? : Nat → Nat → List SourceLine → Option (List (Text × Document) × List SourceLine)
  | 0, _, _ => none
  | _, _, [] => some ([], [])
  | fuel + 1, indent, line :: rest =>
    if line.indent < indent then some ([], line :: rest)
    else if indent < line.indent then none
    else do
      let (key, d, rest) ← if startsEmptyKey line.content then do
          let (d, rest) ← markedNode? fuel line rest
          pure (([] : Text), d, rest)
        else do
          let (key, left) ← splitKey? line.content
          let (d, rest) ← entryValue? fuel indent left rest
          pure (key, d, rest)
      let (entries, rest) ← blockEntries? fuel indent rest
      return ((key, d) :: entries, rest)

end

/-- The lines of the only document, and whether its start is marked. -/
def documentLines? (lines : List SourceLine) : Option (Bool × List SourceLine) :=
  let (marked, lines) := match lines with
    | first :: rest =>
      if isMarked "---" first && isLineEnd (first.content.drop 3) then (true, rest)
      else (false, lines)
    | [] => (false, [])
  let body := lines.takeWhile fun line => !isMarked "..." line
  let tail := lines.dropWhile fun line => !isMarked "..." line
  if tail.length ≤ 1 && !body.any (isMarked "---") then some (marked, body) else none

end RuleSheet.Yaml

namespace RuleSheet.Document

/-- The document of a text in YAML.  A text without content is a map without entries. -/
def ofYaml? (t : Text) : Option Document := do
  let t := match t with
    | '\ufeff' :: rest => rest
    | _ => t
  if !t.all Yaml.isAllowed then none
  else
    let (marked, lines) ← Yaml.documentLines? (← Yaml.sourceLines? t)
    if lines = [] && !marked then return .map []
    else
      let (d, rest) ← Yaml.blockNode? (4 * t.length + 4) 0 lines
      if rest = [] then return d else none

end RuleSheet.Document
