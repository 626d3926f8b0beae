import Mathlib.Algebra.Ring.Nat
import RuleSheet.Console.Basic
import RuleSheet.Proofs.Text.Cuts
import RuleSheet.Proofs.Text.Trim

/-!
# Tables line up

In every line of a table the mark behind a column stands at the same place, counted in cells of the
terminal: below the widest of the column's header and cells, whatever the rows are like.

## Main definitions

* `RuleSheet.Table.room` — the width of the widest among the header and the cells of a column.
* `RuleSheet.Table.markPlace` — the place of the mark behind a column.
* `RuleSheet.Table.laidOut` — cells with spaces behind them and the joint between every two.
* `RuleSheet.Table.MarkBehind` — a mark behind the first cells of a line, and its place.

## Main results

* `RuleSheet.Table.columnWidths_eq` — the width of a column is its room.
* `RuleSheet.Table.laidOut_fills` — cells that are filled up are laid out.
* `RuleSheet.Table.rowLine_eq` — what trimming leaves of a row behind one of its marks.
* `RuleSheet.Console.table_aligned` — the lines of a table, and their marks.
-/

set_option autoImplicit false

namespace RuleSheet

open Text

namespace Table

/-! ### Room -/

/-- The header and the cells of a column. -/
def column (t : Table) (i : Nat) : List Text := (t.headers[i]?).toList ++ t.rows.filterMap (·[i]?)

/-- The width of the widest among the header and the cells of a column. -/
def room (t : Table) (i : Nat) : Nat := ((t.column i).map width).foldr max 0

/-- The place of the mark behind a column: the room of the columns up to it, a joint behind each
column before it, and one more cell. -/
def markPlace (t : Table) (i : Nat) : Nat := ((List.range (i + 1)).map t.room).sum + 3 * i + 1

/-- The widest cell of rows, and at least a given width. -/
lemma widest_eq (rows : List (List Text)) (i least : Nat) :
    widest rows i least = max least (((rows.filterMap (·[i]?)).map width).foldr max 0) := by
  induction rows generalizing least with
  | nil => simp [widest]
  | cons row rows ih =>
    have hnext : widest (row :: rows) i least =
        widest rows i (max least ((row[i]?.map width).getD 0)) := rfl
    rw [hnext, ih]
    cases hcell : row[i]? with
    | none => simp [hcell]
    | some cell => simp [hcell, Nat.max_assoc]

/-- **The width of a column is its room.** -/
lemma columnWidths_eq (t : Table) :
    t.columnWidths = (List.range t.headers.length).map t.room := by
  refine List.ext_getElem (by simp [columnWidths]) fun i hi _ => ?_
  have hheader : i < t.headers.length := by simpa [columnWidths] using hi
  simp [columnWidths, room, column, widest_eq, hheader]

/-- The widths of the first columns. -/
lemma take_columnWidths {t : Table} {i : Nat} (hi : i < t.headers.length) :
    t.columnWidths.take (i + 1) = (List.range (i + 1)).map t.room := by
  rw [columnWidths_eq, ← List.map_take, List.take_range, Nat.min_eq_left hi]

/-- Among the widths of lists of cells none is larger than the largest. -/
lemma width_le_foldr {cells : List Text} {cell : Text} (h : cell ∈ cells) :
    width cell ≤ (cells.map width).foldr max 0 := by
  induction cells with
  | nil => cases h
  | cons first cells ih =>
    rw [List.map_cons, List.foldr_cons]
    rcases List.mem_cons.mp h with rfl | h
    · exact Nat.le_max_left _ _
    · exact (ih h).trans (Nat.le_max_right _ _)

/-- Cells that are not wider than their columns. -/
def Fitting (widths : List Nat) (cells : List Text) : Prop :=
  ∀ p ∈ widths.zip cells, width p.2 ≤ p.1

/-- Cells fit if each belongs to its column. -/
lemma fitting_of_mem {t : Table} {cells : List Text}
    (h : ∀ (i : Nat) (cell : Text), cells[i]? = some cell → cell ∈ t.column i) :
    Fitting t.columnWidths cells := by
  rintro ⟨w, cell⟩ hp
  obtain ⟨i, hi⟩ := List.mem_iff_getElem?.mp hp
  obtain ⟨hw, hcell⟩ := List.getElem?_zip_eq_some.mp hi
  rw [columnWidths_eq, List.getElem?_map, Option.map_eq_some_iff] at hw
  obtain ⟨j, hj, rfl⟩ := hw
  obtain ⟨hlt, rfl⟩ := List.getElem?_eq_some_iff.mp hj
  rw [List.getElem_range]
  exact width_le_foldr (h i cell hcell)

/-- The headers fit. -/
lemma fitting_headers (t : Table) : Fitting t.columnWidths t.headers :=
  fitting_of_mem fun _ _ hcell => by simp [column, hcell]

/-- So do the cells of each row. -/
lemma fitting_row {t : Table} {row : List Text} (h : row ∈ t.rows) : Fitting t.columnWidths row :=
  fitting_of_mem fun _ _ hcell =>
    List.mem_append_right _ (List.mem_filterMap.mpr ⟨row, h, hcell⟩)

/-! ### Joined pieces -/

/-- Joined pieces come apart behind each of them. -/
lemma join_take_drop (between : Text) {pieces : List Text} {i : Nat} (hi : i + 1 < pieces.length) :
    join between pieces =
      join between (pieces.take (i + 1)) ++ (between ++ join between (pieces.drop (i + 1))) := by
  have hfront : pieces.take (i + 1) ≠ [] := by
    rw [← List.length_pos_iff, List.length_take]
    omega
  have hback : pieces.drop (i + 1) ≠ [] := by
    rw [← List.length_pos_iff, List.length_drop]
    omega
  have hjoin := join_append_join between hfront hback
  rwa [List.take_append_drop] at hjoin

/-- A size that adds up, of the first of joined pieces. -/
lemma size_join_take {size : Text → Nat} (happend : ∀ s u, size (s ++ u) = size s + size u)
    (between : Text) {pieces : List Text} {i : Nat} (hi : i < pieces.length) :
    size (join between (pieces.take (i + 1))) =
      ((pieces.take (i + 1)).map size).sum + i * size between := by
  induction i generalizing pieces with
  | zero =>
    obtain ⟨piece, pieces, rfl⟩ := List.exists_cons_of_length_pos hi
    simp [join, List.intercalate]
  | succ i ih =>
    obtain ⟨piece, pieces, rfl⟩ := List.exists_cons_of_length_pos (by omega : 0 < pieces.length)
    rw [List.length_cons] at hi
    obtain ⟨next, others, rfl⟩ := List.exists_cons_of_length_pos (by omega : 0 < pieces.length)
    have htake : (piece :: next :: others).take (i + 1 + 1) =
        piece :: (next :: others).take (i + 1) := rfl
    have hjoin : join between (piece :: (next :: others).take (i + 1)) =
        piece ++ between ++ join between ((next :: others).take (i + 1)) := by
      rw [List.take_succ_cons, join, List.intercalate_cons_cons, join]
    rw [htake, hjoin, happend, happend, ih (by omega), List.map_cons, List.sum_cons, Nat.succ_mul]
    omega

/-! ### Cells of a line -/

/-- Cells with spaces behind them, and the joint between every two. -/
def laidOut (cells : List Text) (spaces : List Nat) : Text :=
  join cellJoint (List.zipWith (fun cell n => cell ++ List.replicate n ' ') cells spaces)

/-- A mark that follows the first cells of a line, which are laid out, and its place. -/
def MarkBehind (cells : List Text) (line : Text) (place : Nat) : Prop :=
  ∃ spaces rest, spaces.length = cells.length ∧ line = laidOut cells spaces ++ ' ' :: '│' :: rest ∧
    width (laidOut cells spaces ++ [' ']) = place

/-- The spaces that fill cells up to the widths of their columns. -/
def fills : List Nat → List Text → List Nat
  | _, [] => []
  | [], _ :: cells => 0 :: fills [] cells
  | w :: widths, cell :: cells => (w - width cell) :: fills widths cells

lemma length_fills (widths : List Nat) (cells : List Text) :
    (fills widths cells).length = cells.length := by
  fun_induction fills widths cells with
  | case1 => rfl
  | case2 cell cells ih => rw [List.length_cons, ih, List.length_cons]
  | case3 w widths cell cells ih => rw [List.length_cons, ih, List.length_cons]

/-- Cells are filled up with spaces. -/
lemma padCells_eq (widths : List Nat) (cells : List Text) :
    padCells widths cells =
      List.zipWith (fun cell n => cell ++ List.replicate n ' ') cells (fills widths cells) := by
  fun_induction fills widths cells with
  | case1 widths => cases widths <;> rfl
  | case2 cell cells ih =>
    have hrest : padCells [] cells = cells := by cases cells <;> rfl
    rw [hrest] at ih
    rw [padCells, List.zipWith_cons_cons, ← ih, List.replicate_zero, List.append_nil]
    simp
  | case3 w widths cell cells ih => rw [padCells, List.zipWith_cons_cons, ← ih, padTo]

lemma length_padCells (widths : List Nat) (cells : List Text) :
    (padCells widths cells).length = cells.length := by
  rw [padCells_eq, List.length_zipWith, length_fills, Nat.min_self]

/-- The first cells of a line are laid out. -/
lemma laidOut_fills (widths : List Nat) (cells : List Text) (n : Nat) :
    laidOut (cells.take n) ((fills widths cells).take n) =
      join cellJoint ((padCells widths cells).take n) := by
  rw [laidOut, padCells_eq, List.take_zipWith]

/-- **A line comes apart at each of its marks.** -/
lemma join_padCells (widths : List Nat) {cells : List Text} {i : Nat} (hi : i + 1 < cells.length) :
    join cellJoint (padCells widths cells) =
      laidOut (cells.take (i + 1)) ((fills widths cells).take (i + 1)) ++
        ' ' :: '│' :: ' ' :: join cellJoint ((padCells widths cells).drop (i + 1)) := by
  have hlength : i + 1 < (padCells widths cells).length := by rwa [length_padCells]
  rw [join_take_drop cellJoint hlength, laidOut_fills]
  rfl

/-- Cells that fit are filled up to the widths of their columns. -/
lemma map_width_padCells {widths : List Nat} {cells : List Text} (h : Fitting widths cells)
    {n : Nat} (hwidths : n ≤ widths.length) (hcells : n ≤ cells.length) :
    ((padCells widths cells).take n).map width = widths.take n := by
  induction n generalizing widths cells with
  | zero => rfl
  | succ n ih =>
    obtain ⟨w, widths, rfl⟩ := List.exists_cons_of_length_pos (by omega : 0 < widths.length)
    obtain ⟨cell, cells, rfl⟩ := List.exists_cons_of_length_pos (by omega : 0 < cells.length)
    rw [Fitting, List.zip_cons_cons, List.forall_mem_cons] at h
    rw [List.length_cons] at hwidths hcells
    rw [padCells, List.take_succ_cons, List.map_cons, width_padTo, Nat.max_eq_left h.1,
      ih h.2 (by omega) (by omega), List.take_succ_cons]

/-- The width of the first cells of a line up to the mark behind them. -/
lemma width_laidOut {widths : List Nat} {cells : List Text} (h : Fitting widths cells) {i : Nat}
    (hwidths : i < widths.length) (hcells : i < cells.length) :
    width (laidOut (cells.take (i + 1)) ((fills widths cells).take (i + 1)) ++ [' ']) =
      (widths.take (i + 1)).sum + 3 * i + 1 := by
  have hlength : i < (padCells widths cells).length := by rwa [length_padCells]
  have hjoint : width cellJoint = 3 := by decide
  have hspace : width [' '] = 1 := by decide
  rw [laidOut_fills, width_append, size_join_take width_append cellJoint hlength,
    map_width_padCells (n := i + 1) h hwidths hcells, hjoint, hspace]
  omega

/-! ### Marks -/

/-- The mark behind a column, in a line of cells that fit. -/
lemma markBehind_padCells {t : Table} {cells : List Text} (h : Fitting t.columnWidths cells)
    {i : Nat} (hi : i + 1 < t.headers.length) (hcells : i + 1 < cells.length) :
    MarkBehind (cells.take (i + 1)) (join cellJoint (padCells t.columnWidths cells))
      (t.markPlace i) := by
  have hwidths : t.columnWidths.length = t.headers.length := by simp [columnWidths]
  refine ⟨(fills t.columnWidths cells).take (i + 1), _, ?_, join_padCells _ hcells, ?_⟩
  · rw [List.length_take, List.length_take, length_fills]
  · rw [width_laidOut h (by omega) (by omega), take_columnWidths (by omega), markPlace]

/-- **Trimming leaves the marks of a row**, and trims what stands behind each of them. -/
lemma rowLine_eq {t : Table} {row : List Text} {before rest : Text}
    (h : join cellJoint (padCells t.columnWidths row) = before ++ ' ' :: '│' :: rest) :
    t.rowLine row = before ++ ' ' :: '│' :: trimEnd rest := by
  -- the mark is no white space, so trimming goes back to it at most
  have hmark : isBlank '│' = false := by decide
  have htrim := trimEndBy_append_cons hmark (before ++ [' ']) rest
  rw [List.append_assoc, List.append_assoc] at htrim
  rw [rowLine, h]
  exact htrim

/-- Trimming does not move the marks of a row. -/
lemma MarkBehind.rowLine {t : Table} {row cells : List Text} {place : Nat}
    (h : MarkBehind cells (join cellJoint (padCells t.columnWidths row)) place) :
    MarkBehind cells (t.rowLine row) place := by
  obtain ⟨spaces, rest, hlength, hline, hplace⟩ := h
  exact ⟨spaces, trimEnd rest, hlength, rowLine_eq hline, hplace⟩

/-- **The mark of the rule behind a column** has a mark before it for each column before that one,
and stands where the marks of the other lines stand. -/
lemma exists_ruleLine (t : Table) {i : Nat} (hi : i + 1 < t.headers.length) :
    ∃ before rest, t.ruleLine = before ++ '┼' :: rest ∧ before.count '┼' = i ∧
      width before = t.markPlace i := by
  have hlength : (t.columnWidths.map fun w => List.replicate w '─').length = t.headers.length := by
    simp [columnWidths]
  have hjoint : width ruleJoint = 3 := by decide
  have hmark : ruleJoint.count '┼' = 1 := by decide
  refine ⟨join ruleJoint ((t.columnWidths.map fun w => List.replicate w '─').take (i + 1)) ++ ['─'],
    '─' :: join ruleJoint ((t.columnWidths.map fun w => List.replicate w '─').drop (i + 1)),
    ?_, ?_, ?_⟩
  · rw [ruleLine, join_take_drop (i := i) ruleJoint (by omega), List.append_assoc]
    rfl
  · have hnone : ∀ w : Nat, (List.replicate w '─').count '┼' = 0 := by
      intro w
      simp [List.count_replicate]
    rw [List.count_append, size_join_take (fun s u => List.count_append) ruleJoint (by omega),
      hmark, ← List.map_take, List.map_map]
    simp [Function.comp_def, hnone]
  · have hdashes : (width ∘ fun w => List.replicate w '─') = id := by
      funext w
      rw [Function.comp_apply, width_replicate]
      exact Nat.mul_one w
    have hdash : width ['─'] = 1 := by decide
    rw [width_append, size_join_take width_append ruleJoint (by omega), hjoint, hdash,
      ← List.map_take, List.map_map, hdashes, List.map_id, take_columnWidths (by omega), markPlace]
    omega

/-! ### Line feeds -/

/-- What stands in cells that are filled up. -/
lemma of_mem_padCells {widths : List Nat} {cells : List Text} {piece : Text} {c : Char}
    (hpiece : piece ∈ padCells widths cells) (hc : c ∈ piece) :
    c = ' ' ∨ ∃ cell ∈ cells, c ∈ cell := by
  rw [padCells_eq] at hpiece
  obtain ⟨i, hi⟩ := List.mem_iff_getElem?.mp hpiece
  obtain ⟨cell, n, hcell, -, rfl⟩ := List.getElem?_zipWith_eq_some.mp hi
  rcases List.mem_append.mp hc with hc | hc
  · exact .inr ⟨cell, List.mem_of_getElem? hcell, hc⟩
  · exact .inl (List.eq_of_mem_replicate hc)

/-- A line of cells without line feeds has none. -/
lemma newline_not_mem_join {cells : List Text} (h : ∀ cell ∈ cells, '\n' ∉ cell)
    (widths : List Nat) : '\n' ∉ join cellJoint (padCells widths cells) := by
  intro hin
  rcases of_mem_join hin with hin | ⟨piece, hpiece, hin⟩
  · exact absurd hin (by decide)
  · rcases of_mem_padCells hpiece hin with hspace | ⟨cell, hcell, hin⟩
    · exact absurd hspace (by decide)
    · exact h cell hcell hin

/-- The rule has none either. -/
lemma newline_not_mem_ruleLine (t : Table) : '\n' ∉ t.ruleLine := by
  intro hin
  rcases of_mem_join hin with hin | ⟨piece, hpiece, hin⟩
  · exact absurd hin (by decide)
  · obtain ⟨w, -, rfl⟩ := List.mem_map.mp hpiece
    exact absurd (List.eq_of_mem_replicate hin) (by decide)

/-- The lines of a table. -/
def lines (t : Table) : List Text := t.headerLine :: t.ruleLine :: t.rows.map t.rowLine

/-- Without line feeds in its cells, a table has none in its lines. -/
lemma newline_not_mem_lines {t : Table} (h : ∀ cell ∈ t.headers ++ t.rows.flatten, '\n' ∉ cell) :
    ∀ line ∈ t.lines, '\n' ∉ line := by
  obtain ⟨hheaders, hrows⟩ := List.forall_mem_append.mp h
  refine List.forall_mem_cons.mpr ⟨newline_not_mem_join hheaders _,
    List.forall_mem_cons.mpr ⟨newline_not_mem_ruleLine t, fun line hline hin => ?_⟩⟩
  obtain ⟨row, hrow, rfl⟩ := List.mem_map.mp hline
  have hcells : ∀ cell ∈ row, '\n' ∉ cell := fun cell hcell =>
    hrows cell (List.mem_flatten.mpr ⟨row, hrow, hcell⟩)
  exact newline_not_mem_join hcells _ (trimEnd_subset _ hin)

end Table

/-- The lines that are written for a table. -/
lemma Console.splitOn_table (c : Console) {t : Table} (hcolor : c.color = false)
    (hcells : ∀ cell ∈ t.headers ++ t.rows.flatten, '\n' ∉ cell) :
    (c.table t).splitOn '\n' =
      (if c.quiet = true ∨ c.isHuman = false then [] else t.lines) ++ [[]] := by
  have htable : line (Style.bold.paintIf c.color t.headerLine) ++ line t.ruleLine ++
      (t.rows.flatMap fun row => line (t.rowLine row)) = t.lines.flatMap (· ++ ['\n']) := by
    rw [hcolor, Table.lines, List.flatMap_cons, List.flatMap_cons, List.flatMap_map,
      List.append_assoc]
    rfl
  rw [table, htable, unlessQuiet, forPeople]
  by_cases hquiet : c.quiet = true
  · simp [hquiet]
  · cases hhuman : c.isHuman with
    | false => simp [hquiet]
    | true => simpa [hquiet] using splitOn_flatMap_concat (Table.newline_not_mem_lines hcells)

/-- **Tables line up.**  The lines that are written are those of the table.  The mark behind a
column that is not the last stands behind the same number of terminal cells in the header line, in
the rule and in every row that goes on behind it: the room of the columns up to it, three cells for
each joint before it, and one space.  Trimming a row takes away none of its marks. -/
theorem Console.table_aligned (c : Console) (t : Table) (hcolor : c.color = false)
    (hcells : ∀ cell ∈ t.headers ++ t.rows.flatten, '\n' ∉ cell) :
    (c.table t).splitOn '\n' =
        (if c.quiet = true ∨ c.isHuman = false then [] else
          t.headerLine :: t.ruleLine :: t.rows.map t.rowLine) ++ [[]] ∧
      (∀ i, i + 1 < t.headers.length →
        Table.MarkBehind (t.headers.take (i + 1)) t.headerLine (t.markPlace i) ∧
        (∃ before rest, t.ruleLine = before ++ '┼' :: rest ∧ before.count '┼' = i ∧
          width before = t.markPlace i) ∧
        ∀ row ∈ t.rows, i + 1 < row.length →
          Table.MarkBehind (row.take (i + 1)) (t.rowLine row) (t.markPlace i)) ∧
      ∀ row ∈ t.rows, ∀ i, i + 1 < row.length → ∃ spaces rest,
        spaces.length = (row.take (i + 1)).length ∧
        join Table.cellJoint (Table.padCells t.columnWidths row) =
          Table.laidOut (row.take (i + 1)) spaces ++ ' ' :: '│' :: rest ∧
        t.rowLine row = Table.laidOut (row.take (i + 1)) spaces ++ ' ' :: '│' :: trimEnd rest := by
  refine ⟨?_, fun i hi => ⟨?_, t.exists_ruleLine hi, fun row hrow hlength => ?_⟩,
    fun row _ i hi => ?_⟩
  · exact c.splitOn_table hcolor hcells
  · exact Table.markBehind_padCells t.fitting_headers hi hi
  · exact (Table.markBehind_padCells (Table.fitting_row hrow) hi hlength).rowLine
  · have hline := Table.join_padCells t.columnWidths hi
    refine ⟨(Table.fills t.columnWidths row).take (i + 1), _, ?_, hline, Table.rowLine_eq hline⟩
    rw [List.length_take, List.length_take, Table.length_fills]

/-- A table with wide characters, a row with more cells than there are headers, a row that ends in
an empty cell, and a row without cells. -/
def raggedTable : Table :=
  ⟨["列", "b", "c"], [["表", "漢字", "x", "more"], ["wide", ""], []]⟩

/-- The marks behind its first two columns stand behind five and behind twelve cells. -/
theorem Console.table_aligned_ragged :
    (∀ cell ∈ raggedTable.headers ++ raggedTable.rows.flatten, '\n' ∉ cell) ∧
      (({} : Console).table raggedTable).splitOn '\n' =
        raggedTable.headerLine :: raggedTable.ruleLine ::
          raggedTable.rows.map raggedTable.rowLine ++ [[]] ∧
      Table.MarkBehind ["列", "b"] raggedTable.headerLine 12 ∧
      (∃ before rest, raggedTable.ruleLine = before ++ '┼' :: rest ∧ before.count '┼' = 1 ∧
        width before = 12) ∧
      Table.MarkBehind ["表", "漢字"] (raggedTable.rowLine ["表", "漢字", "x", "more"]) 12 ∧
      Table.MarkBehind ["wide"] (raggedTable.rowLine ["wide", ""]) 5 := by
  have hcells : ∀ cell ∈ raggedTable.headers ++ raggedTable.rows.flatten, '\n' ∉ cell := by decide
  have hfirst : raggedTable.markPlace 0 = 5 := by decide
  have hsecond : raggedTable.markPlace 1 = 12 := by decide
  obtain ⟨hlines, hmarks, -⟩ := Console.table_aligned {} raggedTable rfl hcells
  obtain ⟨hheader, hrule, hrows⟩ := hmarks 1 (by decide)
  rw [hsecond] at hheader hrule
  have hlong := hrows ["表", "漢字", "x", "more"] (by decide) (by decide)
  have hshort := (hmarks 0 (by decide)).2.2 ["wide", ""] (by decide) (by decide)
  rw [hsecond] at hlong
  rw [hfirst] at hshort
  exact ⟨hcells, hlines, hheader, hrule, hlong, hshort⟩

end RuleSheet
