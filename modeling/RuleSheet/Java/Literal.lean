import RuleSheet.Text.Basic

/-!
# String literals

A text as a Java string literal.  Backslash, double quote, line feed and tabulation are escaped,
and nothing else.

## Main definitions

* `RuleSheet.Java.literal` — the literal of a text.
-/

set_option autoImplicit false

namespace RuleSheet.Java

/-- One character inside a literal. -/
def escape (c : Char) : Text :=
  if c = '\\' then ['\\', '\\']
  else if c = '"' then ['\\', '"']
  else if c = '\n' then ['\\', 'n']
  else if c = '\t' then ['\\', 't']
  else [c]

/-- The string literal of a text. -/
def literal (t : Text) : Text := '"' :: t.flatMap escape ++ ['"']

end RuleSheet.Java
