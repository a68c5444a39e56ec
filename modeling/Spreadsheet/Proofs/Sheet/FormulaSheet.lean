import Spreadsheet.Proofs.Formula.NormalForm
import Spreadsheet.Proofs.Sheet.Writes
import Spreadsheet.Sheet.FormulaSheet

namespace Spreadsheet.FormulaSheet

open Grid

/-!
# What a formula sheet keeps

A formula that is entered into a formula sheet is refused without a trace, or one cell keeps what
the parser made of it. So all cells keep expressions in normal form, and a cell that is entered again
as it is shown stays as it is.
-/

/-- The formula sheet after a formula, and the reason for which the formula was refused, if it was. -/
def perform
    (sheet : FormulaSheet)
    (row column : UInt64)
    (formula : String) :
    FormulaSheet × Option SheetError :=
  match sheet.update row column formula with
  | .ok updated => (updated, none)
  | .error cause => (sheet, some cause)

/-- Formulas, some of which may have been refused, lead from the one formula sheet to the other. -/
inductive ReachedFrom (initial : FormulaSheet) : FormulaSheet → Prop where
  | start :
      ReachedFrom initial initial
  | perform {sheet : FormulaSheet} (row column : UInt64) (formula : String) :
      ReachedFrom initial sheet →
      ReachedFrom initial (sheet.perform row column formula).1

/-- A formula is accepted if it is readable and its place exists; then its cell keeps it. -/
theorem update_eq_ok_iff
    {sheet updated : FormulaSheet}
    {row column : UInt64}
    {formula : String} :
    sheet.update row column formula = .ok updated ↔
      ∃ address expression,
        sheet.locate row column = .ok address ∧
        Formula.parse formula = .ok expression ∧
        { sheet with toGrid := sheet.put address expression } = updated := by
  simp only [update, place_eq_locate, bind, Except.bind]
  cases sheet.locate row column with
  | error cause =>
      simp
  | ok address =>
      cases Formula.parse formula with
      | error cause =>
          simp [mapError_error]
      | ok expression =>
          simp [mapError_ok, pure, Except.pure]

/-- A formula leaves the formula sheet as it is, or one cell keeps what the formula means. -/
theorem perform_cases
    (sheet : FormulaSheet)
    (row column : UInt64)
    (formula : String) :
    (∃ cause, sheet.perform row column formula = (sheet, some cause)) ∨
      ∃ address expression,
        sheet.locate row column = .ok address ∧
        Formula.parse formula = .ok expression ∧
        sheet.perform row column formula =
          ({ sheet with toGrid := sheet.put address expression }, none) := by
  unfold perform
  cases updates : sheet.update row column formula with
  | error cause =>
      exact Or.inl ⟨cause, rfl⟩
  | ok updated =>
      obtain ⟨address, expression, located, parses, rfl⟩ := update_eq_ok_iff.mp updates
      exact Or.inr ⟨address, expression, located, parses, rfl⟩

/-- Every written cell has a place in the grid and keeps an expression in normal form. -/
def KeepsNormalForms (sheet : FormulaSheet) : Prop :=
  ∀ cell expression, sheet.expressionAt? cell = some expression →
    sheet.locate cell.row cell.columnNumber = .ok cell ∧ expression.IsNormal

theorem keepsNormalForms_blank
    (rows columns : UInt64)
    (filler : Expression) :
    (blank rows columns filler).KeepsNormalForms := by
  intro cell expression written
  simp [blank, Grid.blank, Grid.expressionAt?] at written

theorem KeepsNormalForms.perform
    {sheet : FormulaSheet}
    (keeps : sheet.KeepsNormalForms)
    (row column : UInt64)
    (formula : String) :
    (sheet.perform row column formula).1.KeepsNormalForms := by
  rcases sheet.perform_cases row column formula with
    ⟨cause, performs⟩ | ⟨address, entered, located, parses, performs⟩
  · rw [performs]
    exact keeps
  · rw [performs]
    exact forall_cells_put keeps
      ⟨locate_of_locate_eq_ok located, Formula.isNormal_of_parse parses⟩

theorem KeepsNormalForms.of_reachedFrom
    {initial sheet : FormulaSheet}
    (keeps : initial.KeepsNormalForms)
    (reached : ReachedFrom initial sheet) :
    sheet.KeepsNormalForms := by
  induction reached with
  | start =>
      exact keeps
  | perform row column formula _ inductionHypothesis =>
      exact inductionHypothesis.perform row column formula

section Shown

variable
  {sheet : FormulaSheet}
  (keeps : sheet.KeepsNormalForms)
  {cell : Address}
  {expression : Expression}
  (written : sheet.expressionAt? cell = some expression)

include keeps written

/-- What a cell shows is read as what the cell keeps. -/
theorem KeepsNormalForms.parse_textAt :
    Formula.parse (sheet.textAt cell.row cell.columnNumber) = .ok expression := by
  rw [textAt_of_expressionAt?_eq_some written]
  exact Formula.parse_render_of_isNormal (keeps cell expression written).2

/-- A cell that gets the formula that it shows is not changed. -/
theorem KeepsNormalForms.update_textAt :
    sheet.update cell.row cell.columnNumber (sheet.textAt cell.row cell.columnNumber) =
      .ok sheet := by
  refine update_eq_ok_iff.mpr
    ⟨cell, expression, (keeps cell expression written).1, keeps.parse_textAt written, ?_⟩
  rw [put_of_expressionAt?_eq_some written]

end Shown

end Spreadsheet.FormulaSheet
