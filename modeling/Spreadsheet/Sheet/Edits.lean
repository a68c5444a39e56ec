import Spreadsheet.Edit
import Spreadsheet.Sheet

namespace Spreadsheet.Sheet

/-!
# Applying edits

Edits are applied in order. One that the sheet refuses changes nothing, and those after it are still
applied.
-/

/-- The sheet after an edit, and the reason for which the edit was refused, if it was. -/
def applyEdit
    (sheet : Sheet)
    (edit : Edit) :
    Sheet × Option SheetError :=
  sheet.after (writeFormula edit.address.row edit.address.columnNumber edit.formula)

/-- The sheet after several edits, and those that were refused, each with its reason. -/
def applyEdits :
    Sheet → List Edit → Sheet × List (Edit × SheetError)
  | sheet, [] => (sheet, [])
  | sheet, edit :: later =>
    let (afterOne, refusal) := sheet.applyEdit edit
    let (afterAll, refusals) := applyEdits afterOne later
    (afterAll, (refusal.map fun cause => (edit, cause)).toList ++ refusals)

end Spreadsheet.Sheet
