import RuleSheet.Text.Bracket

/-!
# Rule lines

The lines of a rule sheet are copied out of spreadsheet cells.  They arrive wrapped in quotes,
padded with spaces of several widths, and with stray blanks inside references.  The normal form
of a line has one spelling for each construct.

## Main definitions

* `RuleSheet.Line.unquote`, `closeGaps`, `collapse` — the three steps of normalisation.
* `RuleSheet.Line.normalize` — the normal form of a line; a line without content has none.
* `RuleSheet.Line.isIndented` — whether a raw line starts with indentation.
* `RuleSheet.Line.ofSheet` — the raw lines of a sheet.
-/

set_option autoImplicit false

namespace RuleSheet

open Text

namespace Line

/-- Quotes and blanks, which carry no meaning at the ends of a line. -/
def isWrapping (c : Char) : Bool := isBlank c || c = '"'

/-- The line without the quotes and blanks around it. -/
def unquote (raw : Text) : Text := trimBy isWrapping raw

/-- The line without the blanks inside matched brackets, given the number of corner brackets and
of round brackets that are open before it. -/
def closeGapsFrom (corners parens : Nat) : Text → Text
  | [] => []
  | c :: rest =>
    let kept := closeGapsFrom (Bracket.corner.depthAfter corners c)
      (Bracket.paren.depthAfter parens c) rest
    if isBlank c && (Bracket.corner.encloses corners rest || Bracket.paren.encloses parens rest)
    then kept else c :: kept

/-- The line without the blanks inside matched brackets. -/
def closeGaps (t : Text) : Text := closeGapsFrom 0 0 t

/-- The line with a single space between its words. -/
def collapse (t : Text) : Text := join [' '] (words t)

/-- The normal form of a line: no quotes around it, no blanks inside references, single spaces
between words.  A line of quotes and blanks alone has none. -/
def normalize (raw : Text) : Option Text :=
  match collapse (closeGaps (unquote raw)) with
  | [] => none
  | line => some line

/-- Spaces that indent a line. -/
def isIndent (c : Char) : Bool := c = ' ' || c = '\t' || c = '　'

/-- Whether a raw line is indented, an opening quote apart. -/
def isIndented (raw : Text) : Bool :=
  match raw with
  | '"' :: c :: _ => isIndent c
  | c :: _ => isIndent c
  | [] => false

/-- The raw lines of a sheet.  Byte order marks in front of it do not count. -/
def ofSheet (content : Text) : List Text := lines (dropByteOrderMarks content)

end Line

end RuleSheet
