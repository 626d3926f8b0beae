import RuleSheet.Text.Basic

/-!
# Styles

Colours and weights of text on a terminal.  A painted text stands between the control sequence of
its style and the one that resets it.

## Main definitions

* `RuleSheet.Style` — the styles in use.
* `RuleSheet.Style.paint` — a text in a style.
-/

set_option autoImplicit false

namespace RuleSheet

open Text

/-- The styles in use. -/
inductive Style where
  /-- Red. -/
  | red
  /-- Red and bold. -/
  | boldRed
  /-- Green. -/
  | green
  /-- Yellow. -/
  | yellow
  /-- Blue. -/
  | blue
  /-- Cyan. -/
  | cyan
  /-- Bright blue. -/
  | brightBlue
  /-- Bold. -/
  | bold
  /-- Dimmed. -/
  | dimmed
  deriving DecidableEq, Repr

namespace Style

/-- The codes of a style. -/
def codes : Style → Text
  | .red => "31"
  | .boldRed => "1;31"
  | .green => "32"
  | .yellow => "33"
  | .blue => "34"
  | .cyan => "36"
  | .brightBlue => "94"
  | .bold => "1"
  | .dimmed => "2"

/-- The control sequence that starts a style. -/
def start (s : Style) : Text := "\x1b[" ++ s.codes ++ "m"

/-- The control sequence that ends every style. -/
def reset : Text := "\x1b[0m"

/-- The text with the style started again after each reset inside it.  `bound` limits the number of
cuts; the length of the text is enough. -/
def resumeWithin (s : Style) : Nat → Text → Text
  | 0, t => t
  | bound + 1, t =>
    match cut? reset t with
    | none => t
    | some (before, after) => before ++ reset ++ s.start ++ resumeWithin s bound after

/-- The text with the style started again after each reset inside it. -/
def resume (s : Style) (t : Text) : Text := resumeWithin s t.length t

/-- The text in a style. -/
def paint (s : Style) (t : Text) : Text := s.start ++ s.resume t ++ reset

/-- The text in a style if colours are wanted, and as it is if not. -/
def paintIf (color : Bool) (s : Style) (t : Text) : Text := if color then s.paint t else t

end Style

end RuleSheet
