import RuleSheet.Text.Case.Tables
import RuleSheet.Text.Word

/-!
# Upper and lower case

Full case mapping: the upper case of one letter may be several, and a capital sigma at the end of
a word is lowered to its final form.

## Main definitions

* `RuleSheet.Text.upper`, `lower` — the other case of one character, as a text.
* `RuleSheet.Text.lowercase` — a whole text in lower case, with the rule for a final sigma.
* `RuleSheet.Text.capitalize`, `lowerFirst` — a text with its first character in upper or lower
  case.
-/

set_option autoImplicit false

namespace RuleSheet.Text

/-- The image of a code point under the runs, listed in ascending order of their first member.
Runs of stride two may interleave, so a run that passes over the code point is not the last
word. -/
def imageIn (n : Nat) : List (Nat × Nat × Nat × Nat) → Option Nat
  | [] => none
  | (first, last, stride, image) :: rest =>
    if n < first then none
    else if n ≤ last ∧ (n - first) % stride = 0 then some (image + (n - first))
    else imageIn n rest

/-- The other case of a character by a table of runs and a table of longer images; the character
itself if neither lists it. -/
def caseImage (runs : List (Nat × Nat × Nat × Nat)) (expansions : List (Nat × String))
    (c : Char) : Text :=
  match imageIn c.toNat runs with
  | some image => [Char.ofNat image]
  | none =>
    match expansions.find? (·.1 = c.toNat) with
    | some (_, image) => image.toList
    | none => [c]

/-- The upper case of a character. -/
def upper (c : Char) : Text := caseImage upperRuns upperExpansions c

/-- The lower case of a character. -/
def lower (c : Char) : Text := caseImage lowerRuns lowerExpansions c

/-- Letters that have case. -/
def isCased (c : Char) : Bool := inRanges c.toNat casedRanges

/-- Characters passed over in the search for a neighbouring letter. -/
def isCaseIgnorable (c : Char) : Bool := inRanges c.toNat caseIgnorableRanges

/-- Whether the next character that is not passed over is a letter with case. -/
def meetsCased (t : Text) : Bool :=
  match t.dropWhile isCaseIgnorable with
  | [] => false
  | c :: _ => isCased c

/-- A text in lower case, given the characters before it, nearest first.  A capital sigma takes
its final form where a letter precedes and none follows. -/
def lowercaseAfter (before : Text) : Text → Text
  | [] => []
  | c :: rest =>
    let image :=
      if c = 'Σ' then if meetsCased before && !meetsCased rest then ['ς'] else ['σ']
      else lower c
    image ++ lowercaseAfter (c :: before) rest

/-- A text in lower case. -/
def lowercase (t : Text) : Text := lowercaseAfter [] t

/-- The text with its first character in upper case. -/
def capitalize : Text → Text
  | [] => []
  | c :: rest => upper c ++ rest

/-- The text with its first character in lower case. -/
def lowerFirst : Text → Text
  | [] => []
  | c :: rest => lower c ++ rest

end RuleSheet.Text
