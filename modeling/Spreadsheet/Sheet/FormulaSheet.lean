import Spreadsheet.Sheet.Grid

namespace Spreadsheet

/-!
# Sheets of formulas

A formula sheet checks formulas and keeps them as they are written: no name is ever resolved.
-/

/-- A grid whose formulas are kept unevaluated. -/
structure FormulaSheet extends Grid

namespace FormulaSheet

/-- A formula sheet with no cell written. -/
def blank
    (rows columns : UInt64)
    (filler : Expression) :
    FormulaSheet :=
  { Grid.blank rows columns filler with }

/-- The address of a row and a column, which must have a letter and, that given, lie inside the grid. -/
def place
    (sheet : FormulaSheet)
    (row column : UInt64) :
    Except SheetError Address :=
  let inside := fun _ : Address => decide (row < sheet.rows ∧ column < sheet.columns)
  match (Address.ofIndices? row column).filter inside with
  | some address => .ok address
  | none => .error (.outOfBounds row column)

/-- It makes no difference that the letter is asked for before the place. -/
theorem place_eq_locate
    (sheet : FormulaSheet)
    (row column : UInt64) :
    sheet.place row column = sheet.locate row column := by
  unfold place Grid.locate
  cases Address.ofIndices? row column with
  | none =>
      simp
  | some address =>
      by_cases inside : row < sheet.rows ∧ column < sheet.columns
      · simp [inside, Option.filter]
      · simp [inside, Option.filter]

/-- Writes a formula to the cell at a row and a column. -/
def update
    (sheet : FormulaSheet)
    (row column : UInt64)
    (formula : String) :
    Except SheetError FormulaSheet := do
  let address ← sheet.place row column
  let expression ← (Formula.parse formula).mapError (.unreadableFormula formula)
  return { sheet with toGrid := sheet.put address expression }

end FormulaSheet

end Spreadsheet
