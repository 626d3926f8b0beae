import RuleSheet.Text.Compatibility.Classes
import RuleSheet.Text.Compatibility.Compositions
import RuleSheet.Text.Compatibility.Decompositions

/-!
# Compatibility normal form

Texts that differ only in the width or the encoding of their characters have one compatibility
normal form: `ｶﾞ`, `ガ` and `カ` with a separate voicing mark all become `ガ`.

## Main definitions

* `RuleSheet.Text.decompose` — every character replaced by its full decomposition.
* `RuleSheet.Text.reorder` — the marks after each base character sorted by combining class.
* `RuleSheet.Text.compose` — base characters joined with the marks that they can take.
* `RuleSheet.Text.compatible` — the three steps in this order.

## Design

Hangul syllables are handled by arithmetic: a syllable is numbered by its leading consonant, its
vowel and its trailing consonant.
-/

set_option autoImplicit false

namespace RuleSheet.Text

/-! ### Hangul -/

/-- The first precomposed syllable. -/
def syllableBase : Nat := 0xAC00

/-- The first leading consonant. -/
def leadBase : Nat := 0x1100

/-- The first vowel. -/
def vowelBase : Nat := 0x1161

/-- One below the first trailing consonant; it stands for a missing one. -/
def trailBase : Nat := 0x11A7

/-- The leading consonants of a precomposed syllable number nineteen. -/
def leadCount : Nat := 19

/-- The vowels of a precomposed syllable number twenty-one. -/
def vowelCount : Nat := 21

/-- The trailing consonants of a precomposed syllable, a missing one included. -/
def trailCount : Nat := 28

/-- Whether the code point is a precomposed syllable. -/
def isSyllable (n : Nat) : Bool :=
  syllableBase ≤ n && n < syllableBase + leadCount * vowelCount * trailCount

/-- The consonants and the vowel of a precomposed syllable. -/
def decomposeSyllable (n : Nat) : Text :=
  let index := n - syllableBase
  let lead := Char.ofNat (leadBase + index / (vowelCount * trailCount))
  let vowel := Char.ofNat (vowelBase + index % (vowelCount * trailCount) / trailCount)
  let trail := index % trailCount
  if trail = 0 then [lead, vowel] else [lead, vowel, Char.ofNat (trailBase + trail)]

/-- The precomposed syllable of a leading consonant and a vowel, or of a syllable without a
trailing consonant and such a consonant. -/
def composeSyllable? (a b : Nat) : Option Nat :=
  if leadBase ≤ a ∧ a < leadBase + leadCount ∧ vowelBase ≤ b ∧ b < vowelBase + vowelCount then
    some (syllableBase + ((a - leadBase) * vowelCount + (b - vowelBase)) * trailCount)
  else if isSyllable a ∧ (a - syllableBase) % trailCount = 0 ∧
      trailBase < b ∧ b < trailBase + trailCount then
    some (a + (b - trailBase))
  else none

/-! ### The three steps -/

/-- The full compatibility decomposition of one character. -/
def decomposeChar (c : Char) : Text :=
  if isSyllable c.toNat then decomposeSyllable c.toNat
  else (decompositionOf? c.toNat).getD [c]

/-- Every character replaced by its full decomposition. -/
def decompose (t : Text) : Text := t.flatMap decomposeChar

/-- Puts a character before a text whose marks are in order: a mark moves behind the marks of
lower class that follow it. -/
def insertMark (c : Char) : Text → Text
  | [] => [c]
  | d :: rest =>
    if 0 < combiningClass d ∧ combiningClass d < combiningClass c then d :: insertMark c rest
    else c :: d :: rest

/-- The marks after each base character sorted by combining class; marks of one class keep their
order. -/
def reorder : Text → Text
  | [] => []
  | c :: rest => insertMark c (reorder rest)

/-- The composed form of two characters. -/
def composePair? (a b : Char) : Option Char :=
  (composeSyllable? a.toNat b.toNat <|> compositionOf? a.toNat b.toNat).map Char.ofNat

/-- Composition after a base character.  The marks that did not join the base are kept in
`passed`, latest first; `blocked` is the class of the latest.  A character joins the base if no
passed mark has its class or a higher one. -/
def composeFrom (base : Char) (passed : Text) (blocked : Nat) : Text → Text
  | [] => base :: passed.reverse
  | c :: rest =>
    let k := combiningClass c
    match if passed.isEmpty || blocked < k then composePair? base c else none with
    | some joined => composeFrom joined passed blocked rest
    | none =>
      if k = 0 then base :: passed.reverse ++ composeFrom c [] 0 rest
      else composeFrom base (c :: passed) k rest

/-- Base characters joined with the marks that they can take.  Marks before the first base
character stay as they are. -/
def compose : Text → Text
  | [] => []
  | c :: rest => if combiningClass c = 0 then composeFrom c [] 0 rest else c :: compose rest

/-- The compatibility normal form. -/
def compatible (t : Text) : Text := compose (reorder (decompose t))

end RuleSheet.Text
