import RuleSheet.Text.Basic

/-!
# Digits of both widths

Numbers in a design document are typed with ASCII digits, with full-width digits, or with both.
Folding brings them to ASCII and leaves every other character alone.

## Main definitions

* `RuleSheet.Text.isDigit` — ASCII and full-width digits.
* `RuleSheet.Text.foldDigits` — full-width digits replaced by ASCII digits.
* `RuleSheet.Text.isNumber` — non-empty runs of digits.
-/

set_option autoImplicit false

namespace RuleSheet.Text

/-- The digits `0` to `9`. -/
def isAsciiDigit (c : Char) : Bool := '0' ≤ c && c ≤ '9'

/-- The full-width digits `０` to `９`. -/
def isWideDigit (c : Char) : Bool := '０' ≤ c && c ≤ '９'

/-- The digits of either width. -/
def isDigit (c : Char) : Bool := isAsciiDigit c || isWideDigit c

/-- A full-width digit becomes the ASCII digit of the same value. -/
def foldDigit (c : Char) : Char :=
  if isWideDigit c then Char.ofNat (c.toNat - '０'.toNat + '0'.toNat) else c

/-- Every full-width digit becomes the ASCII digit of the same value. -/
def foldDigits (t : Text) : Text := t.map foldDigit

/-- A non-empty run of digits, the widths mixed at will. -/
def isNumber (t : Text) : Bool := !t.isEmpty && t.all isDigit

end RuleSheet.Text
