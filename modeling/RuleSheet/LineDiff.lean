import RuleSheet.Console.Style

/-!
# Line diffs

What it takes to get from one text to another, line by line, with as few changes as possible, and
how that is shown.

## Main definitions

* `RuleSheet.LineDiff.lines` — the lines of a text, with their ends.
* `RuleSheet.LineDiff.script` — a shortest list of changes between two lists of lines.
* `RuleSheet.LineDiff.groups` — the changes with some lines around them.
* `RuleSheet.LineDiff.Method` — a way to find the changes and to group them.
* `RuleSheet.LineDiff.compareBy`, `compare` — the comparison of two texts by a method, and by the
  method of fewest changes.

## Design

Shortest scripts are computed for all pairs of suffixes, one row for each suffix of the first list.
Lines that agree at the front are always kept.

There can be several shortest scripts.  What is shown and counted does not look at how the changes
were found, so the method is a parameter.
-/

set_option autoImplicit false

namespace RuleSheet.LineDiff

open Text

/-! ### Lines -/

/-- The lines of a text, with their ends: a line feed, a carriage return, or both. -/
def lines : Text → List Text
  | [] => []
  | '\r' :: '\n' :: rest => ['\r', '\n'] :: lines rest
  | c :: rest =>
    if c = '\n' || c = '\r' then [c] :: lines rest
    else match lines rest with
      | [] => [[c]]
      | line :: more => (c :: line) :: more

/-- Whether a line has an end. -/
def isEnded (line : Text) : Bool :=
  match line.getLast? with
  | some c => c = '\n' || c = '\r'
  | none => false

/-! ### Scripts -/

/-- One step from the expected lines to the actual lines. -/
inductive Change where
  /-- A line of both. -/
  | same (line : Text)
  /-- A line of the expected lines only. -/
  | removed (line : Text)
  /-- A line of the actual lines only. -/
  | added (line : Text)
  deriving DecidableEq, Repr

/-- Steps, with the number of lines that they remove or add. -/
structure Script where
  /-- The number of lines removed or added. -/
  cost : Nat
  /-- The steps. -/
  changes : List Change
  deriving DecidableEq, Repr

namespace Script

/-- No steps. -/
def empty : Script := ⟨0, []⟩

/-- Keeps a line first. -/
def same (line : Text) (s : Script) : Script := ⟨s.cost, .same line :: s.changes⟩

/-- Removes a line first. -/
def remove (line : Text) (s : Script) : Script := ⟨s.cost + 1, .removed line :: s.changes⟩

/-- Adds a line first. -/
def add (line : Text) (s : Script) : Script := ⟨s.cost + 1, .added line :: s.changes⟩

/-- The cheaper of two scripts. -/
def cheaper (s t : Script) : Script := if s.cost ≤ t.cost then s else t

end Script

/-- The scripts from one list of lines to a list and to all its shorter suffixes. -/
abbrev Row := Script × List Script

/-- The scripts from no lines. -/
def emptyRow : List Text → Row
  | [] => (.empty, [])
  | b :: actual =>
    let (s, shorter) := emptyRow actual
    (s.add b, s :: shorter)

/-- The scripts from a list with one more line in front. -/
def nextRow (a : Text) : List Text → Row → Row
  | b :: actual, (below, diagonal :: others) =>
    let (s, shorter) := nextRow a actual (diagonal, others)
    (if a = b then diagonal.same a else (below.remove a).cheaper (s.add b), s :: shorter)
  | _, (below, _) => (below.remove a, [])

/-- The scripts from a list of lines. -/
def row (actual : List Text) : List Text → Row
  | [] => emptyRow actual
  | a :: expected => nextRow a actual (row actual expected)

/-- A shortest list of changes between two lists of lines. -/
def script (expected actual : List Text) : List Change := (row actual expected).1.changes

/-! ### Runs -/

/-- Neighbouring steps of one kind. -/
inductive Run where
  /-- Lines of both. -/
  | same (lines : List Text)
  /-- Lines of the expected lines only, and then lines of the actual lines only. -/
  | changed (removed added : List Text)
  deriving DecidableEq, Repr

/-- The steps of a run. -/
def Run.changes : Run → List Change
  | .same lines => lines.map .same
  | .changed removed added => removed.map .removed ++ added.map .added

/-- Runs with one more step in front. -/
def consRun : Change → List Run → List Run
  | .same line, .same lines :: runs => .same (line :: lines) :: runs
  | .same line, runs => .same [line] :: runs
  | .removed line, .changed removed added :: runs => .changed (line :: removed) added :: runs
  | .removed line, runs => .changed [line] [] :: runs
  | .added line, .changed removed added :: runs => .changed removed (line :: added) :: runs
  | .added line, runs => .changed [] [line] :: runs

/-- Steps in runs. -/
def runs (changes : List Change) : List Run := changes.foldr consRun []

/-! ### Groups -/

/-- The last of some lines, at most so many. -/
def lastLines (n : Nat) (lines : List Text) : List Text := lines.drop (lines.length - n)

/-- Runs that start with at most so many lines of both. -/
def trimFirst (n : Nat) : List Run → List Run
  | .same lines :: runs => .same (lastLines n lines) :: runs
  | runs => runs

/-- Runs that end with at most so many lines of both. -/
def trimLast (n : Nat) : List Run → List Run
  | [] => []
  | [.same lines] => [.same (lines.take n)]
  | run :: runs => run :: trimLast n runs

/-- Steps in groups.  Lines of both that are more than twice the context end a group and start the
next one.  `group` holds the steps of the group so far. -/
def groupsFrom (n : Nat) (group : List Change) : List Run → List (List Change)
  | [] => [group]
  | .same lines :: runs =>
    if 2 * n < lines.length then
      (group ++ (lines.take n).map .same) :: groupsFrom n ((lastLines n lines).map .same) runs
    else groupsFrom n (group ++ lines.map .same) runs
  | .changed removed added :: runs =>
    groupsFrom n (group ++ (Run.changed removed added).changes) runs

/-- The changes with at most so many lines around them. -/
def groups (n : Nat) (changes : List Change) : List (List Change) :=
  groupsFrom n [] (trimLast n (trimFirst n (runs changes)))

/-- A way to compare lists of lines. -/
structure Method where
  /-- The steps from the expected lines to the actual lines. -/
  steps : List Text → List Text → List Change
  /-- The steps to show, in groups, with at most so many lines around changes. -/
  groups : Nat → List Change → List (List Change)

/-- The method of fewest changes. -/
def fewest : Method := ⟨script, groups⟩

/-! ### Showing -/

/-- How a diff is shown. -/
structure Options where
  /-- Whether it is coloured. -/
  color : Bool := true
  /-- The number of lines around changes. -/
  context : Nat := 3
  /-- The largest number of lines; none if it is zero. -/
  limit : Nat := 100
  deriving DecidableEq, Repr

/-- One item of a shown diff. -/
inductive Item where
  /-- Lines that are left out. -/
  | gap
  /-- A line. -/
  | line (c : Change)
  deriving DecidableEq, Repr

/-- The items of groups. -/
def items (groups : List (List Change)) : List Item :=
  [Item.gap].intercalate (groups.map fun group => group.map .line)

/-- A line with an end. -/
def ended (line : Text) : Text := if isEnded line then line else line ++ ['\n']

/-- A step in words.  A line without end is followed by an empty line. -/
def Change.text (color : Bool) (c : Change) : Text :=
  let (shown, line) := match c with
    | .removed line => (Style.red.paintIf color ('-' :: ended line), line)
    | .added line => (Style.green.paintIf color ('+' :: ended line), line)
    | .same line => (' ' :: ended line, line)
  if isEnded line then shown else shown ++ ['\n']

/-- The first line of a shown diff. -/
def header : Text := "=== Diff (-expected +generated) ===\n"

/-- The line for lines that are left out. -/
def gapLine : Text := "@@\n"

/-- The line where a diff is cut short. -/
def truncation : Text := "... (diff truncated) ...\n"

/-- Items in words.  `left` is the number of lines that may still be shown, if there is a limit. -/
def itemsText (color : Bool) (left : Option Nat) : List Item → Text
  | [] => []
  | .gap :: rest => Style.cyan.paintIf color gapLine ++ itemsText color left rest
  | .line c :: rest =>
    if left = some 0 then truncation
    else c.text color ++ itemsText color (left.map (· - 1)) rest

/-- A diff in words. -/
def render (o : Options) (groups : List (List Change)) : Text :=
  Style.bold.paintIf o.color header ++
    itemsText o.color (if o.limit = 0 then none else some o.limit) (items groups)

/-! ### Comparing -/

/-- The comparison of two texts. -/
structure Result where
  /-- Whether they are equal. -/
  agrees : Bool
  /-- The diff in words. -/
  text : Text
  /-- The number of lines added. -/
  added : Nat
  /-- The number of lines removed. -/
  removed : Nat
  deriving DecidableEq, Repr

/-- Whether a step adds a line. -/
def Change.isAdded : Change → Bool
  | .added _ => true
  | _ => false

/-- Whether a step removes a line. -/
def Change.isRemoved : Change → Bool
  | .removed _ => true
  | _ => false

/-- Compares the expected with the actual text by a method. -/
def compareBy (m : Method) (o : Options) (expected actual : Text) : Result :=
  if expected = actual then ⟨true, [], 0, 0⟩
  else
    let changes := m.steps (lines expected) (lines actual)
    ⟨false, render o (m.groups o.context changes), changes.countP Change.isAdded,
      changes.countP Change.isRemoved⟩

/-- Compares the expected with the actual text, with as few changes as possible. -/
def compare (o : Options) (expected actual : Text) : Result := compareBy fewest o expected actual

end RuleSheet.LineDiff
