import RuleSheet.Text.Basic

/-!
# Brackets

How a text nests in one kind of brackets.

## Main definitions

* `RuleSheet.Bracket` — a pair of brackets, `Bracket.corner` and `Bracket.paren` among them.
* `RuleSheet.Bracket.depthAfter` — the nesting depth, counted from the left.
* `RuleSheet.Bracket.closes` — the brackets that still get closed, counted from the right.
* `RuleSheet.Bracket.encloses` — whether a place lies inside a matched pair.

## Design

A place lies inside a matched pair of brackets exactly if some bracket is open on its left and the
text on its right closes at least one bracket that it did not open itself.  The two counts are
independent recursions, one from each side, and each kind of bracket has its own.
-/

set_option autoImplicit false

namespace RuleSheet

/-- A pair of brackets. -/
structure Bracket where
  /-- The opening bracket. -/
  opening : Char
  /-- The closing bracket. -/
  closing : Char

namespace Bracket

/-- The corner brackets around a reference. -/
def corner : Bracket := ⟨'「', '」'⟩

/-- The round brackets around a label. -/
def paren : Bracket := ⟨'(', ')'⟩

/-- The number of open brackets after one more character.  A closing bracket without a partner
counts for nothing. -/
def depthAfter (b : Bracket) (depth : Nat) (c : Char) : Nat :=
  if c = b.opening then depth + 1 else if c = b.closing then depth - 1 else depth

/-- How many brackets that are open before a text get closed in it, if enough are open. -/
def closes (b : Bracket) : Text → Nat
  | [] => 0
  | c :: rest =>
    if c = b.opening then b.closes rest - 1
    else if c = b.closing then b.closes rest + 1
    else b.closes rest

/-- Whether a place with `depth` open brackets on its left and the text `rest` on its right lies
inside a matched pair. -/
def encloses (b : Bracket) (depth : Nat) (rest : Text) : Bool :=
  0 < depth && 0 < b.closes rest

end Bracket

end RuleSheet
