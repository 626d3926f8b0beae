import RuleSheet.Text.Width

/-!
# Tables

Tables with a header line, a rule below it, and one line for each row.  A column is as wide as its
widest cell.

## Main definitions

* `RuleSheet.Table` — headers and rows.
* `RuleSheet.Table.columnWidths` — the width of each column.
* `RuleSheet.Table.headerLine`, `ruleLine`, `rowLine` — the lines of the table.

## Design

The headers decide which columns there are.  A row may be shorter; if it is longer, its further
cells are written as they are.
-/

set_option autoImplicit false

namespace RuleSheet

open Text

/-- Headers and rows. -/
structure Table where
  /-- The header of each column. -/
  headers : List Text
  /-- The cells of each row. -/
  rows : List (List Text)
  deriving DecidableEq, Repr

namespace Table

/-- The width of the widest cell in a column, and at least a given width. -/
def widest (rows : List (List Text)) (column : Nat) (least : Nat) : Nat :=
  rows.foldl (fun w row => max w (((row[column]?).map width).getD 0)) least

/-- The width of each column. -/
def columnWidths (t : Table) : List Nat :=
  t.headers.mapIdx fun column header => widest t.rows column (width header)

/-- What stands between two cells of a line. -/
def cellJoint : Text := " │ "

/-- What stands between two columns of the rule. -/
def ruleJoint : Text := "─┼─"

/-- Cells filled up to the widths of their columns. -/
def padCells : List Nat → List Text → List Text
  | _, [] => []
  | [], cells => cells
  | w :: widths, cell :: cells => padTo w cell :: padCells widths cells

/-- The header line. -/
def headerLine (t : Table) : Text := join cellJoint (padCells t.columnWidths t.headers)

/-- The rule below the headers. -/
def ruleLine (t : Table) : Text :=
  join ruleJoint (t.columnWidths.map fun w => List.replicate w '─')

/-- The line of a row, without white space at its end. -/
def rowLine (t : Table) (row : List Text) : Text :=
  trimEnd (join cellJoint (padCells t.columnWidths row))

end Table

end RuleSheet
