import RuleSheet.Text.Compatibility
import RuleSheet.Text.Digits

/-!
# Labels

The labels of a rule sheet and the comments of an entity source are typed by different people, who
disagree on width, spacing and separators.  Two labels match if their keys are equal.

## Main definitions

* `RuleSheet.Label.key` — what is left of a label without separators, in compatibility form.
* `RuleSheet.Label.agree` — whether two labels name the same thing.
-/

set_option autoImplicit false

namespace RuleSheet.Label

open Text

/-- White space and the marks that are dropped before the widths are unified. -/
def isMarker (c : Char) : Bool :=
  isBlank c || c = '*' || c = '"' || c = '.' || c = '/' || c = '[' || c = ']'

/-- The punctuation of ASCII. -/
def isAsciiPunctuation (c : Char) : Bool :=
  let n := c.toNat
  (0x21 ≤ n && n ≤ 0x2F) || (0x3A ≤ n && n ≤ 0x40) || (0x5B ≤ n && n ≤ 0x60) ||
    (0x7B ≤ n && n ≤ 0x7E)

/-- Separators: white space, ASCII punctuation, the hyphens and dashes, the minus sign. -/
def isSeparator (c : Char) : Bool :=
  let n := c.toNat
  isBlank c || isAsciiPunctuation c || (0x2010 ≤ n && n ≤ 0x2015) || n = 0x2212

/-- The key of a label: markers dropped, widths unified, separators dropped. -/
def key (label : Text) : Text :=
  (compatible (foldDigits (label.filter fun c => !isMarker c))).filter fun c => !isSeparator c

/-- Two labels agree if their keys are equal and not empty. -/
def agree (a b : Text) : Bool := key a ≠ [] && key a = key b

end RuleSheet.Label
