import Spreadsheet.Address
import Spreadsheet.Sheet.Error
import Std.Data.ExtTreeMap

namespace Spreadsheet

/-!
# Grids of cells

A grid has fixed dimensions and keeps one expression for each cell that has been written. A cell
that has not been written shows the grid's filler, and so does a place outside the grid.
-/

/-- The expressions of the cells that have been written. -/
abbrev Cells := Std.ExtTreeMap Address Expression

/-- Dimensions, contents and the expression shown by cells that have never been written. -/
structure Grid where
  rows : UInt64
  columns : UInt64
  filler : Expression
  cells : Cells

namespace Grid

/-- A grid in which no cell has been written. -/
def blank
    (rows columns : UInt64)
    (filler : Expression) :
    Grid :=
  ⟨rows, columns, filler, ∅⟩

/-- The address of a row and a column, which must lie inside the grid and have a letter. -/
def locate
    (grid : Grid)
    (row column : UInt64) :
    Except SheetError Address :=
  if row < grid.rows ∧ column < grid.columns then
    match Address.ofIndices? row column with
    | some address => .ok address
    | none => .error (.outOfBounds row column)
  else
    .error (.outOfBounds row column)

/-- The expression that has been written to a cell. -/
def expressionAt?
    (grid : Grid)
    (address : Address) :
    Option Expression :=
  grid.cells[address]?

/-- The expression that a place shows. -/
def shownAt
    (grid : Grid)
    (row column : UInt64) :
    Expression :=
  match Address.ofIndices? row column with
  | some address => (grid.expressionAt? address).getD grid.filler
  | none => grid.filler

/-- The text that a place shows. -/
def textAt
    (grid : Grid)
    (row column : UInt64) :
    String :=
  (grid.shownAt row column).render

/-- The grid with an expression in one of its cells. -/
def put
    (grid : Grid)
    (address : Address)
    (expression : Expression) :
    Grid :=
  { grid with cells := grid.cells.insert address expression }

theorem expressionAt?_put_self
    (grid : Grid)
    (address : Address)
    (expression : Expression) :
    (grid.put address expression).expressionAt? address = some expression := by
  simp [put, expressionAt?]

theorem expressionAt?_put_of_ne
    (grid : Grid)
    {address other : Address}
    (expression : Expression)
    (different : address ≠ other) :
    (grid.put address expression).expressionAt? other = grid.expressionAt? other := by
  have distinct : compare address other ≠ .eq := fun same =>
    different (Std.LawfulEqOrd.eq_of_compare same)
  simp [put, expressionAt?, Std.ExtTreeMap.getElem?_insert, distinct]

/-- What holds of all cells, and of the one that is written, holds of all cells afterwards. -/
theorem forall_cells_put
    {grid : Grid}
    {Holds : Address → Expression → Prop}
    (before : ∀ cell stored, grid.expressionAt? cell = some stored → Holds cell stored)
    {address : Address}
    {expression : Expression}
    (holds : Holds address expression) :
    ∀ cell stored,
      (grid.put address expression).expressionAt? cell = some stored → Holds cell stored := by
  intro cell stored written
  by_cases isTarget : address = cell
  · subst isTarget
    obtain rfl := Option.some.inj ((expressionAt?_put_self ..).symm.trans written)
    exact holds
  · exact before cell stored ((expressionAt?_put_of_ne _ _ isTarget).symm.trans written)

/-- The cells with an expression are those from before and the one that is written. -/
theorem isSome_expressionAt?_put_iff
    (grid : Grid)
    {address cell : Address}
    {expression : Expression} :
    ((grid.put address expression).expressionAt? cell).isSome ↔
      cell = address ∨ (grid.expressionAt? cell).isSome := by
  by_cases isTarget : cell = address
  · subst isTarget
    simp [expressionAt?_put_self]
  · simp [expressionAt?_put_of_ne _ _ (Ne.symm isTarget), isTarget]

/-- Nothing changes when a cell gets the expression that it has. -/
theorem put_of_expressionAt?_eq_some
    {grid : Grid}
    {address : Address}
    {expression : Expression}
    (written : grid.expressionAt? address = some expression) :
    grid.put address expression = grid := by
  have sameCells : grid.cells.insert address expression = grid.cells := by
    apply Std.ExtTreeMap.ext_getElem?
    intro other
    rw [Std.ExtTreeMap.getElem?_insert]
    split
    · rename_i same
      rw [← Std.LawfulEqOrd.eq_of_compare same]
      exact written.symm
    · rfl
  simp only [put, sameCells]

/-- The place of a written cell shows the expression of the cell. -/
theorem textAt_of_expressionAt?_eq_some
    {grid : Grid}
    {address : Address}
    {expression : Expression}
    (written : grid.expressionAt? address = some expression) :
    grid.textAt address.row address.columnNumber = expression.render := by
  simp only [textAt, shownAt, Address.ofIndices?_columnNumber, written, Option.getD_some]

end Grid

end Spreadsheet
