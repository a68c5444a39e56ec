import Spreadsheet.Sheet.Grid

namespace Spreadsheet

/-!
# What a grid shows

A view tells for each place of a grid which text it shows and in which colours.
-/

/-- The appearance of one cell. -/
structure CellView where
  text : String
  background : String
  foreground : String
  deriving Repr, DecidableEq

/-- Black text on white. -/
def CellView.plain (text : String) : CellView :=
  ⟨text, "white", "black"⟩

/-- Dimensions and the appearance of each place. -/
structure View where
  rows : UInt64
  columns : UInt64
  valueAt : UInt64 → UInt64 → CellView

/-- A grid shows the expressions of its cells as plain text. -/
def Grid.view (grid : Grid) : View where
  rows := grid.rows
  columns := grid.columns
  valueAt := fun row column => .plain (grid.textAt row column)

end Spreadsheet
