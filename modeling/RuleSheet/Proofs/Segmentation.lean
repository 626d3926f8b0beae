import Mathlib.Data.List.Basic
import Mathlib.Data.List.Induction
import RuleSheet.Block.Assembly

/-!
# Assembly is segmentation

The assembler reads a sheet line by line and carries an open block along.  Seen from the finished
sheet nothing is open: every line has its place, and what it becomes can be read off from the lines
around it.  This module says what that is, position by position, and proves that the assembler
does the same.

## Main definitions

* `RuleSheet.Segmentation.ends` — the lines that end a block.
* `RuleSheet.Segmentation.extent` — the lines of a block, from those after its condition.
* `RuleSheet.Segmentation.InExtent` — a position lies in the block of a condition.
* `RuleSheet.Segmentation.blockOf` — a block from its condition and its lines.
* `RuleSheet.Segmentation.pieces`, `leftOut` — the pieces of a sheet and the lines left out.

## Main results

* `RuleSheet.Segmentation.foldl_join` — a block grown line by line is the block of its lines.
* `RuleSheet.Segmentation.outcome_step`, `outcome_foldl` — neither a step nor a run of the
  assembler changes what becomes of the sheet.
* `RuleSheet.Segmentation.ofLines_eq_segmentation` — the assembler computes the segmentation.

## Design

The segmentation looks at positions, the assembler at a state.  Between the two stands `along`, a
recursion over the lines that carries one bit: whether a block is open.  The state of the assembler
determines that bit (`outcome_step`), and the bit says the same as the positions (`enclosed_iff`).
-/

set_option autoImplicit false

namespace RuleSheet.Segmentation

/-! ### The lines of a block -/

/-- Whether a line starts a condition. -/
def opens : Option SheetLine → Bool
  | none => false
  | some line =>
    match line.clause with
    | .opening _ => true
    | _ => false

/-- Whether a line ends the block before it.  The start of another condition always does.  If
blocks are made of indented lines, so does a blank line, and a line without indentation that is no
further comparison. -/
def ends (scope : BlockScope) : Option SheetLine → Bool
  | none => scope = .indented
  | some line =>
    match line.clause with
    | .opening _ => true
    | .continuation _ _ => false
    | .statement _ | .unrecognized _ => scope = .indented && !line.indented

/-- The lines of a block, given the lines after the start of its condition. -/
def extent (scope : BlockScope) (after : List (Option SheetLine)) : List (Option SheetLine) :=
  after.takeWhile fun line => !ends scope line

/-- Position `i` lies in the block of the condition that starts at position `j`. -/
def InExtent (scope : BlockScope) (lines : List (Option SheetLine)) (j i : Nat) : Prop :=
  lines[j]?.any opens = true ∧ j < i ∧ i ≤ j + (extent scope (lines.drop (j + 1))).length

instance (scope : BlockScope) (lines : List (Option SheetLine)) (j i : Nat) :
    Decidable (InExtent scope lines j i) :=
  inferInstanceAs (Decidable (_ ∧ _ ∧ _))

/-- Position `i` lies in a block. -/
def Enclosed (scope : BlockScope) (lines : List (Option SheetLine)) (i : Nat) : Prop :=
  ∃ j < i, InExtent scope lines j i

instance (scope : BlockScope) (lines : List (Option SheetLine)) (i : Nat) :
    Decidable (Enclosed scope lines i) :=
  inferInstanceAs (Decidable (∃ j < i, _))

/-! ### A block from its lines -/

/-- The comparison that a line adds to the condition of its block. -/
def comparison? : Option SheetLine → Option Comparison
  | none => none
  | some line =>
    match line.clause with
    | .continuation connective part => some { part with joined := some connective }
    | _ => none

/-- The statement that a line adds to its block. -/
def statement? : Option SheetLine → Option Statement
  | none => none
  | some line =>
    match line.clause with
    | .statement s => some s
    | .unrecognized text => some (Assembly.unrecognized text)
    | _ => none

/-- Whether a statement keeps a line that one of the statements before it keeps. -/
def repeatsOneOf (earlier : List Statement) (s : Statement) : Bool :=
  s.isTodo && earlier.any fun other => other.todoLine? = s.todoLine?

/-- The statements without those that keep a line a second time. -/
def unrepeated (statements : List Statement) : List Statement :=
  (List.range statements.length).filterMap fun i =>
    statements[i]?.filter fun s => !repeatsOneOf (statements.take i) s

/-- A block from the number of its first line, its first comparison and its further lines. -/
def blockOf (number : Nat) (first : Comparison) (members : List (Option SheetLine)) : Block where
  line := number
  condition := ⟨{ first with joined := none } :: members.filterMap comparison?⟩
  statements := unrepeated (members.filterMap statement?)

/-! ### The sheet in pieces -/

/-- The piece that a line makes outside of blocks. -/
def alone? (policy : Policy) (line : SheetLine) : Option Piece :=
  match line.clause with
  | .opening _ => none
  | .continuation _ _ => some (.alone line.number (Assembly.orphan line.text))
  | .statement s => some (.alone line.number s)
  | .unrecognized text =>
    match policy with
    | .todo => some (.alone line.number (Assembly.unrecognized text))
    | .skip => none

/-- The piece that starts with a line, given whether the line is in a block and the lines after
it. -/
def piece? (scope : BlockScope) (policy : Policy) (enclosed : Bool) (line : Option SheetLine)
    (after : List (Option SheetLine)) : Option Piece :=
  line.bind fun line =>
    match line.clause with
    | .opening part => some (.block (blockOf line.number part (extent scope after)))
    | _ => if enclosed then none else alone? policy line

/-- The line, if it is one that is left out. -/
def leftOut? (policy : Policy) (enclosed : Bool) (line : Option SheetLine) : Option SheetLine :=
  line.bind fun line =>
    match line.clause with
    | .unrecognized _ => if policy = .skip ∧ !enclosed then some line else none
    | _ => none

/-- What the lines of a sheet come to one by one, each seen with whether it is in a block and with
the lines after it. -/
def byPosition {α : Type} (scope : BlockScope)
    (f : Bool → Option SheetLine → List (Option SheetLine) → Option α)
    (lines : List (Option SheetLine)) : List α :=
  (List.range lines.length).filterMap fun i =>
    lines[i]?.bind fun line => f (Enclosed scope lines i) line (lines.drop (i + 1))

/-- The pieces of a sheet. -/
def pieces (scope : BlockScope) (policy : Policy) (lines : List (Option SheetLine)) : List Piece :=
  byPosition scope (piece? scope policy) lines

/-- The lines of a sheet that are left out. -/
def leftOut (scope : BlockScope) (policy : Policy) (lines : List (Option SheetLine)) :
    List SheetLine :=
  byPosition scope (fun enclosed line _ => leftOut? policy enclosed line) lines

/-! ### Growing a block line by line -/

/-- A list of statements, and one more. -/
lemma unrepeated_concat (ss : List Statement) (s : Statement) :
    unrepeated (ss ++ [s]) = unrepeated ss ++ if repeatsOneOf ss s then [] else [s] := by
  have hinit : ∀ i ∈ List.range ss.length,
      ((ss ++ [s])[i]?.filter fun s' => !repeatsOneOf ((ss ++ [s]).take i) s') =
        ss[i]?.filter fun s' => !repeatsOneOf (ss.take i) s' := by
    intro i hi
    have hlt : i < ss.length := List.mem_range.mp hi
    rw [List.getElem?_append_left hlt, List.take_append_of_le_length (Nat.le_of_lt hlt)]
  unfold unrepeated
  rw [List.length_append, List.length_singleton, List.range_succ, List.filterMap_append,
    List.filterMap_congr hinit]
  congr 1
  cases h : repeatsOneOf ss s <;> simp [h, Option.filter]

/-- No line is lost by leaving out repetitions. -/
lemma any_unrepeated (ss : List Statement) (kept : Text) :
    ((unrepeated ss).any fun s => s.todoLine? = some kept) =
      ss.any fun s => s.todoLine? = some kept := by
  induction ss using List.reverseRecOn with
  | nil => rfl
  | append_singleton ss s ih =>
    rw [unrepeated_concat, List.any_append, List.any_append, ih]
    split
    next h =>
      -- what is left out here stands in `ss` already
      simp only [repeatsOneOf, Bool.and_eq_true] at h
      by_cases hs : s.todoLine? = some kept
      · rw [hs] at h
        simp [h.2]
      · simp [hs]
    next => rfl

/-- A block that holds the statements of a list adds one more as the list does. -/
lemma repeats_unrepeated (b : Block) (ss : List Statement) (h : b.statements = unrepeated ss)
    (s : Statement) : b.repeats s = repeatsOneOf ss s := by
  unfold Block.repeats repeatsOneOf Statement.isTodo
  cases s.todoLine? with
  | none => rfl
  | some kept => simp [h, any_unrepeated]

/-- A block with one of its lines. -/
def join (b : Block) : Option SheetLine → Block
  | none => b
  | some line =>
    match line.clause with
    | .opening _ => b
    | .continuation connective part => b.extend connective part
    | .statement s => b.add s
    | .unrecognized text => b.add (Assembly.unrecognized text)

/-- Adding a statement to a block appends it to the list of its statements. -/
lemma add_blockOf (number : Nat) (first : Comparison) (members : List (Option SheetLine))
    (line : Option SheetLine) (s : Statement) (hs : statement? line = some s)
    (hc : comparison? line = none) :
    (blockOf number first members).add s = blockOf number first (members ++ [line]) := by
  have hrep := repeats_unrepeated (blockOf number first members) _ rfl s
  unfold Block.add
  rw [hrep]
  simp only [blockOf, List.filterMap_append, List.filterMap_cons, List.filterMap_nil, hs, hc,
    unrepeated_concat, List.append_nil]
  split <;> simp

/-- **A block grown line by line** is the block of its lines.

**Proof sketch.** Induction on the lines from the end.  A further comparison is appended with its
own connective, because the condition has a first comparison already; a statement is appended unless
the block keeps its line, which by `any_unrepeated` the block knows without the repetitions. -/
theorem foldl_join (number : Nat) (first : Comparison) (members : List (Option SheetLine)) :
    members.foldl join (.start number first) = blockOf number first members := by
  induction members using List.reverseRecOn with
  | nil => rfl
  | append_singleton members line ih =>
    rw [List.foldl_append, ih, List.foldl_cons, List.foldl_nil]
    cases line with
    | none => simp [join, blockOf, List.filterMap_cons, comparison?, statement?]
    | some line =>
      obtain ⟨n, indented, text, clause⟩ := line
      cases clause with
      | opening part => simp [join, blockOf, List.filterMap_cons, comparison?, statement?]
      | continuation connective part =>
        simp [join, blockOf, List.filterMap_cons, comparison?, statement?, Block.extend,
          Condition.extend]
      | statement s => exact add_blockOf number first members _ s rfl rfl
      | unrecognized text => exact add_blockOf number first members _ _ rfl rfl

/-! ### The open block as one bit -/

/-- Whether a block is open after a line, given whether one was open before it. -/
def openAfter (scope : BlockScope) (isOpen : Bool) (line : Option SheetLine) : Bool :=
  opens line || (isOpen && !ends scope line)

/-- Whether a block is open after some lines. -/
def isOpen (scope : BlockScope) (before : List (Option SheetLine)) : Bool :=
  before.foldl (openAfter scope) false

/-- A block is open if a condition started and no line since ended it. -/
lemma isOpen_iff (scope : BlockScope) (before : List (Option SheetLine)) :
    isOpen scope before = true ↔
      ∃ pre line mid, before = pre ++ line :: mid ∧ opens line = true ∧
        ∀ later ∈ mid, ends scope later = false := by
  induction before using List.reverseRecOn with
  | nil => simp [isOpen]
  | append_singleton before last ih =>
    have hstep : isOpen scope (before ++ [last]) = openAfter scope (isOpen scope before) last := by
      simp [isOpen]
    rw [hstep, openAfter, Bool.or_eq_true, Bool.and_eq_true, ih, Bool.not_eq_true']
    constructor
    · rintro (hlast | ⟨⟨pre, line, mid, rfl, hline, hmid⟩, hlast⟩)
      · exact ⟨before, last, [], rfl, hlast, by simp⟩
      · refine ⟨pre, line, mid ++ [last], by simp, hline, fun later hl => ?_⟩
        rcases List.mem_append.mp hl with hl | hl
        · exact hmid later hl
        · rw [List.mem_singleton.mp hl]
          exact hlast
    · rintro ⟨pre, line, mid, heq, hline, hmid⟩
      rcases List.eq_nil_or_concat mid with rfl | ⟨mid', later, rfl⟩
      · obtain ⟨-, rfl⟩ := List.append_singleton_inj.mp heq
        exact Or.inl hline
      · have hconcat : before ++ [last] = (pre ++ line :: mid') ++ [later] := by simpa using heq
        obtain ⟨rfl, rfl⟩ := List.append_singleton_inj.mp hconcat
        exact Or.inr ⟨⟨pre, line, mid', rfl, hline, fun z hz => hmid z (by simp [hz])⟩,
          hmid last (by simp)⟩

/-- A line belongs to the longest run of members if all lines before it and it itself do. -/
lemma length_lt_extent_iff (scope : BlockScope) (mid rest : List (Option SheetLine))
    (line : Option SheetLine) :
    mid.length < (extent scope (mid ++ line :: rest)).length ↔
      (∀ earlier ∈ mid, ends scope earlier = false) ∧ ends scope line = false := by
  induction mid with
  | nil => cases h : ends scope line <;> simp [extent, h]
  | cons first mid ih =>
    cases h : ends scope first
    · simpa [extent, h] using ih
    · simp [extent, h]

/-- The line after some lines is in a block if a block is open there and the line does not end
it. -/
lemma enclosed_iff (scope : BlockScope) (before rest : List (Option SheetLine))
    (line : Option SheetLine) :
    Enclosed scope (before ++ line :: rest) before.length ↔
      isOpen scope before = true ∧ ends scope line = false := by
  rw [isOpen_iff]
  constructor
  · rintro ⟨j, hj, hopens, -, hlen⟩
    have hsplit : before = before.take j ++ before[j] :: before.drop (j + 1) := by simp
    rw [List.getElem?_append_left hj, List.getElem?_eq_getElem hj, Option.any_some] at hopens
    rw [List.drop_append_of_le_length (by omega)] at hlen
    have hmid := (length_lt_extent_iff scope (before.drop (j + 1)) rest line).mp
      (by rw [List.length_drop]; omega)
    exact ⟨⟨_, _, _, hsplit, hopens, hmid.1⟩, hmid.2⟩
  · rintro ⟨⟨pre, first, mid, rfl, hfirst, hmid⟩, hline⟩
    have hlen := (length_lt_extent_iff scope mid rest line).mpr ⟨hmid, hline⟩
    refine ⟨pre.length, by simp, ?_, by simp, ?_⟩
    · simp [hfirst]
    · have hdrop : (pre ++ first :: mid ++ line :: rest).drop (pre.length + 1) =
          mid ++ line :: rest := by
        simp [List.drop_append]
      rw [hdrop]
      simp only [List.length_append, List.length_cons]
      omega

/-- No position lies in two blocks: of two conditions the later one ends the block of the
earlier. -/
lemma inExtent_unique (scope : BlockScope) (lines : List (Option SheetLine)) {j j' i : Nat}
    (h : InExtent scope lines j i) (h' : InExtent scope lines j' i) : j = j' := by
  suffices hlt : ∀ {j j' : Nat}, InExtent scope lines j i → InExtent scope lines j' i → ¬ j < j' by
    rcases Nat.lt_trichotomy j j' with hjj | rfl | hjj
    · exact absurd hjj (hlt h h')
    · rfl
    · exact absurd hjj (hlt h' h)
  rintro j j' ⟨-, -, hlen⟩ ⟨hopens, hji, -⟩ hjj
  obtain ⟨line, hline, hopen⟩ := (Option.any_eq_true _ _).mp hopens
  obtain ⟨hlt, rfl⟩ := List.getElem?_eq_some_iff.mp hline
  -- the lines after `j` up to `j'`, and the condition at `j'`
  have hsplit : lines.drop (j + 1) =
      (lines.drop (j + 1)).take (j' - (j + 1)) ++ lines[j'] :: lines.drop (j' + 1) := by
    have hdrop : (lines.drop (j + 1)).drop (j' - (j + 1)) = lines[j'] :: lines.drop (j' + 1) := by
      rw [List.drop_drop, show j + 1 + (j' - (j + 1)) = j' by omega, List.drop_eq_getElem_cons hlt]
    rw [← hdrop, List.take_append_drop]
  have hmid := (length_lt_extent_iff scope ((lines.drop (j + 1)).take (j' - (j + 1)))
    (lines.drop (j' + 1)) lines[j']).mp (by rw [← hsplit, List.length_take]; omega)
  cases hc : lines[j'] with
  | none => simp [hc, opens] at hopen
  | some line =>
    have hends := hmid.2
    rw [hc] at hopen hends
    unfold opens at hopen
    unfold ends at hends
    cases hcl : line.clause <;> simp [hcl] at hopen hends

/-! ### From positions to one pass -/

section Along

variable {α : Type} (scope : BlockScope)
  (f : Bool → Option SheetLine → List (Option SheetLine) → Option α)

/-- What the lines of a sheet come to, in one pass that knows whether a block is open. -/
def along : Bool → List (Option SheetLine) → List α
  | _, [] => []
  | isOpen, line :: after =>
    (f (isOpen && !ends scope line) line after).toList ++
      along (openAfter scope isOpen line) after

/-- The pass over the lines after some others gives what their positions say.

**Proof sketch.** Induction on the lines that are left.  The next line stands at position
`before.length`; whether it is in a block is the bit of the pass (`enclosed_iff`), and the lines
before the rest are `before` with this line. -/
lemma along_eq (rest : List (Option SheetLine)) : ∀ before : List (Option SheetLine),
    along scope f (isOpen scope before) rest =
      (List.range' before.length rest.length).filterMap fun i =>
        (before ++ rest)[i]?.bind fun line =>
          f (Enclosed scope (before ++ rest) i) line ((before ++ rest).drop (i + 1)) := by
  induction rest with
  | nil => intro before; simp [along]
  | cons line rest ih =>
    intro before
    have hbit : decide (Enclosed scope (before ++ line :: rest) before.length) =
        (isOpen scope before && !ends scope line) := by
      rw [Bool.eq_iff_iff, decide_eq_true_iff, enclosed_iff, Bool.and_eq_true, Bool.not_eq_true']
    have hopen : openAfter scope (isOpen scope before) line = isOpen scope (before ++ [line]) := by
      simp [isOpen]
    have hdrop : (before ++ line :: rest).drop (before.length + 1) = rest := by
      simp [List.drop_append]
    have htail := ih (before ++ [line])
    rw [List.append_assoc, List.singleton_append, List.length_append, List.length_singleton]
      at htail
    rw [along, hopen, htail, List.length_cons, List.range'_succ, List.filterMap_cons,
      List.getElem?_append_right (Nat.le_refl _), Nat.sub_self, List.getElem?_cons_zero,
      Option.bind_some, hbit, hdrop]
    cases f (isOpen scope before && !ends scope line) line rest <;> rfl

/-- One pass over a sheet gives what its positions say. -/
lemma along_eq_byPosition (lines : List (Option SheetLine)) :
    along scope f false lines = byPosition scope f lines := by
  have h := along_eq scope f lines []
  rwa [List.length_nil, ← List.range_eq_range', List.nil_append] at h

end Along

/-! ### The assembler as one pass -/

section Assembler

variable (scope : BlockScope) (policy : Policy)

/-- What becomes of a sheet of which some lines have been assembled and others are still to come.
Its pieces are those finished already, the open block with its further lines, and what the lines to
come start by themselves. -/
def outcome (a : Assembly) (rest : List (Option SheetLine)) : List Piece × Nat :=
  (a.pieces ++ (a.current.map fun b => Piece.block ((extent scope rest).foldl join b)).toList ++
      along scope (piece? scope policy) a.current.isSome rest,
    a.skipped + (along scope (fun enclosed line _ => leftOut? policy enclosed line)
      a.current.isSome rest).length)

/-- **One step of the assembler** does not change what becomes of the sheet.

**Proof sketch.** By the kind of the line.  A line that ends the open block moves it to the
finished pieces, where the outcome has it already, because no further line belongs to it; a member
of the open block is the first of its further lines; the start of a condition opens the block of the
lines that belong to it (`foldl_join`). -/
lemma outcome_step (a : Assembly) (line : Option SheetLine) (rest : List (Option SheetLine)) :
    outcome scope policy (a.step scope policy line) rest =
      outcome scope policy a (line :: rest) := by
  obtain ⟨current, done, skipped⟩ := a
  cases line with
  | none =>
    cases scope <;> cases current <;>
      simp [outcome, along, Assembly.step, Assembly.blank, Assembly.close, extent, ends, opens,
        openAfter, piece?, leftOut?, join]
  | some line =>
    obtain ⟨number, indented, text, clause⟩ := line
    cases clause with
    | opening part =>
      cases current <;>
        simp [outcome, along, Assembly.step, Assembly.push, Assembly.close, extent, ends, opens,
          openAfter, piece?, leftOut?, foldl_join]
    | continuation connective part =>
      cases current <;>
        simp [outcome, along, Assembly.step, Assembly.push, Assembly.emit, extent, ends, opens,
          openAfter, piece?, alone?, leftOut?, join]
    | statement s =>
      cases scope <;> cases indented <;> cases current <;>
        simp [outcome, along, Assembly.step, Assembly.push, Assembly.emit, Assembly.close,
          Assembly.accepting, extent, ends, opens, openAfter, piece?, alone?, leftOut?, join]
    | unrecognized text =>
      cases scope <;> cases policy <;> cases indented <;> cases current <;>
        simp [outcome, along, Assembly.step, Assembly.push, Assembly.emit, Assembly.close,
          Assembly.accepting, extent, ends, opens, openAfter, piece?, alone?, leftOut?, join,
          Nat.add_assoc, Nat.add_comm 1]

/-- A run of the assembler does not change what becomes of the sheet. -/
lemma outcome_foldl (lines : List (Option SheetLine)) : ∀ a : Assembly,
    outcome scope policy (lines.foldl (Assembly.step scope policy) a) [] =
      outcome scope policy a lines := by
  induction lines with
  | nil => intro a; rfl
  | cons line lines ih =>
    intro a
    rw [List.foldl_cons, ih, outcome_step]

/-- If no line is to come, the outcome is what the assembler has once its block is closed. -/
lemma outcome_nil (a : Assembly) : outcome scope policy a [] = (a.close.pieces, a.skipped) := by
  obtain ⟨current, done, skipped⟩ := a
  cases current <;> simp [outcome, along, Assembly.close, extent]

/-- Before the first line, the outcome is the segmentation. -/
lemma outcome_start (lines : List (Option SheetLine)) :
    outcome scope policy .start lines =
      (pieces scope policy lines, (leftOut scope policy lines).length) := by
  simp [outcome, Assembly.start, along_eq_byPosition, pieces, leftOut]

/-! ### The order of the pieces -/

/-- A piece has the number of the line that it starts with. -/
lemma line_of_piece? {enclosed : Bool} {line : SheetLine} {after : List (Option SheetLine)}
    {p : Piece} (hp : piece? scope policy enclosed (some line) after = some p) :
    p.line = line.number := by
  obtain ⟨number, indented, text, clause⟩ := line
  cases clause <;> cases enclosed <;> cases policy <;> simp [piece?, alone?] at hp <;>
    subst hp <;> rfl

/-- Every piece starts with a line of its own, in the order of the lines. -/
lemma map_line_sublist (lines : List (Option SheetLine)) : ∀ isOpen : Bool,
    ((along scope (piece? scope policy) isOpen lines).map Piece.line).Sublist
      ((lines.filterMap id).map SheetLine.number) := by
  induction lines with
  | nil => intro isOpen; simp [along]
  | cons line lines ih =>
    intro isOpen
    cases line with
    | none => simpa [along, piece?] using ih _
    | some line =>
      have hlines : (some line :: lines).filterMap id = line :: lines.filterMap id := rfl
      rw [along, List.map_append, hlines, List.map_cons]
      cases hp : piece? scope policy (isOpen && !ends scope (some line)) (some line) lines with
      | none => simpa using (ih _).cons _
      | some p =>
        simpa [line_of_piece? scope policy hp] using ih _

/-- The pieces of a sheet with ascending numbers are in ascending order already. -/
lemma pieces_sorted (lines : List (Option SheetLine))
    (ascending : (lines.filterMap id).Pairwise fun a b => a.number < b.number) :
    (pieces scope policy lines).Pairwise fun p q => p.line < q.line := by
  rw [pieces, ← along_eq_byPosition, ← List.pairwise_map]
  refine List.Pairwise.sublist (map_line_sublist scope policy lines false) ?_
  rwa [List.pairwise_map]

/-- **Assembly is segmentation.**  On lines with ascending numbers the assembler returns the block
of every condition, made of the lines up to the first one that ends it, and every other line by
itself, in the order of the sheet; it counts the lines that are left out.  No line belongs to two
blocks. -/
theorem ofLines_eq_segmentation (lines : List (Option SheetLine))
    (ascending : (lines.filterMap id).Pairwise fun a b => a.number < b.number) :
    Assembly.ofLines scope policy lines =
        (pieces scope policy lines, (leftOut scope policy lines).length) ∧
      ∀ i j j', InExtent scope lines j i → InExtent scope lines j' i → j = j' := by
  refine ⟨?_, fun i j j' h h' => inExtent_unique scope lines h h'⟩
  have hrun := outcome_foldl scope policy lines .start
  rw [outcome_nil, outcome_start, Prod.mk.injEq] at hrun
  unfold Assembly.ofLines Assembly.finish
  rw [hrun.1, hrun.2, List.mergeSort_of_pairwise]
  refine (pieces_sorted scope policy lines ascending).imp fun h => ?_
  exact decide_eq_true (Nat.le_of_lt h)

end Assembler

/-- A sheet with a statement, a condition of two comparisons over an indented line that is written
twice, a blank line, and three lines that stand alone, of which one is not recognised. -/
def sampleSheet : List (Option SheetLine) :=
  [some ⟨1, false, ['a'], .statement (.setFlag ['a'] true)⟩,
    some ⟨2, false, ['b'], .opening (.unread ['b'])⟩,
    some ⟨3, false, ['c'], .continuation .or (.unread ['c'])⟩,
    some ⟨4, true, ['d'], .unrecognized ['d']⟩,
    some ⟨5, true, ['e'], .statement (.setFlag ['e'] false)⟩,
    some ⟨6, true, ['d'], .unrecognized ['d']⟩,
    none,
    some ⟨8, true, ['e'], .statement (.setFlag ['e'] true)⟩,
    some ⟨9, false, ['f'], .continuation .and (.unread ['f'])⟩,
    some ⟨10, false, ['g'], .unrecognized ['g']⟩]

/-- The segmentation of the sample sheet, with blocks of indented lines. -/
theorem ofLines_sampleSheet :
    ((sampleSheet.filterMap id).Pairwise fun a b => a.number < b.number) ∧
      Assembly.ofLines .indented .skip sampleSheet =
        ([.alone 1 (.setFlag ['a'] true),
          .block ⟨2, ⟨[.unread ['b'], { Comparison.unread ['c'] with joined := some .or }]⟩,
            [Assembly.unrecognized ['d'], .setFlag ['e'] false]⟩,
          .alone 8 (.setFlag ['e'] true),
          .alone 9 (Assembly.orphan ['f'])], 1) := by
  have hascending : (sampleSheet.filterMap id).Pairwise fun a b => a.number < b.number := by decide
  have hsegmentation := (ofLines_eq_segmentation .indented .skip sampleSheet hascending).1
  exact ⟨hascending, hsegmentation.trans (by decide)⟩

end RuleSheet.Segmentation
