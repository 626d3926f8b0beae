/-!
# Texts

A text is the list of its characters, so every definition on texts is a recursion on a list.
This module holds white space and the cuts that the rest of the library makes: trimming, words,
lines, and the first or last occurrence of a mark.

## Main definitions

* `RuleSheet.Text` — lists of characters, with string literals read as texts.
* `RuleSheet.Text.isBlank` — white space of every script.
* `RuleSheet.Text.trim`, `trimStart`, `trimEnd` — a text without white space at its ends.
* `RuleSheet.Text.words`, `lines` — a text in pieces.
* `RuleSheet.Text.after?`, `before?` — what is left of a text that starts or ends with a mark.
* `RuleSheet.Text.cut?`, `cutLast?` — what stands before and after a mark inside a text.

## Design

Nothing here looks at positions.  A cut returns the two texts on its sides, so that what is lost
and what is kept can be said with `++`.
-/

set_option autoImplicit false

namespace RuleSheet

/-- A text is the list of its characters. -/
abbrev Text := List Char

/-- A string literal stands for the text of its characters. -/
instance : Coe String Text := ⟨String.toList⟩

namespace Text

/-! ### White space -/

/-- White space of every script: the control characters from tabulation to carriage return, the
spaces of all widths, the line and paragraph separators, and the next-line control. -/
def isBlank (c : Char) : Bool :=
  let n := c.toNat
  (0x9 ≤ n && n ≤ 0xD) || n = 0x20 || n = 0x85 || n = 0xA0 || n = 0x1680 ||
    (0x2000 ≤ n && n ≤ 0x200A) || n = 0x2028 || n = 0x2029 || n = 0x202F || n = 0x205F ||
    n = 0x3000

/-- The text without the leading characters of a class. -/
def trimStartBy (p : Char → Bool) (t : Text) : Text := t.dropWhile p

/-- The text without the trailing characters of a class. -/
def trimEndBy (p : Char → Bool) (t : Text) : Text := (t.reverse.dropWhile p).reverse

/-- The text without the leading and the trailing characters of a class. -/
def trimBy (p : Char → Bool) (t : Text) : Text := trimEndBy p (trimStartBy p t)

/-- The text without leading white space. -/
def trimStart (t : Text) : Text := trimStartBy isBlank t

/-- The text without trailing white space. -/
def trimEnd (t : Text) : Text := trimEndBy isBlank t

/-- The text without white space at its ends. -/
def trim (t : Text) : Text := trimBy isBlank t

/-- The text without byte order marks in front. -/
def dropByteOrderMarks (t : Text) : Text := trimStartBy (fun c => c.toNat = 0xFEFF) t

/-! ### Pieces -/

/-- The maximal runs of characters that are not white space. -/
def words (t : Text) : List Text := (t.splitOnP isBlank).filter (· ≠ [])

/-- A line without the carriage return at its end, if it has one. -/
def dropReturn (t : Text) : Text :=
  match t.getLast? with
  | some '\r' => t.dropLast
  | _ => t

/-- The lines among the pieces between line feeds.  The piece after the last line feed is a line
only if it is not empty, and it alone keeps a carriage return at its end. -/
def linesOfPieces : List Text → List Text
  | [] => []
  | [last] => if last = [] then [] else [last]
  | piece :: pieces => dropReturn piece :: linesOfPieces pieces

/-- The lines of a text.  A line ends at a line feed, or at a carriage return and a line feed; the
end of the text ends a last line that is not empty. -/
def lines (t : Text) : List Text := linesOfPieces (t.splitOn '\n')

/-- The pieces with a text between every two of them. -/
def join (between : Text) (pieces : List Text) : Text := between.intercalate pieces

/-! ### Marks -/

/-- What follows a mark at the start of a text. -/
def after? : Text → Text → Option Text
  | [], t => some t
  | _ :: _, [] => none
  | m :: mark, c :: t => if m = c then after? mark t else none

/-- What precedes a mark at the end of a text. -/
def before? (mark t : Text) : Option Text := (after? mark.reverse t.reverse).map List.reverse

/-- Whether the text starts with a mark. -/
def startsWith (mark t : Text) : Bool := (after? mark t).isSome

/-- What stands before and after the first occurrence of a mark. -/
def cut? (mark : Text) : Text → Option (Text × Text)
  | [] => if mark = [] then some ([], []) else none
  | c :: rest =>
    match after? mark (c :: rest) with
    | some after => some ([], after)
    | none => (cut? mark rest).map fun (before, after) => (c :: before, after)

/-- What stands before and after the last occurrence of a mark. -/
def cutLast? (mark : Text) (t : Text) : Option (Text × Text) :=
  (cut? mark.reverse t.reverse).map fun (after, before) => (before.reverse, after.reverse)

/-- Whether the mark occurs in the text. -/
def contains (t mark : Text) : Bool := (cut? mark t).isSome

/-- The characters before the first one of a class, that character, and the rest. -/
def cutBy? (p : Char → Bool) : Text → Option (Text × Char × Text)
  | [] => none
  | c :: rest =>
    if p c then some ([], c, rest)
    else (cutBy? p rest).map fun (before, d, after) => (c :: before, d, after)

/-! ### Numerals -/

/-- The decimal numeral of a number. -/
def ofNat (n : Nat) : Text := (toString n).toList

end Text

end RuleSheet
