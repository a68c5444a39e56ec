import Spreadsheet.Formula.Parse
import Spreadsheet.Text.Quoted

namespace Spreadsheet

/-!
# Why a sheet refuses to be built or written
-/

/-- The reasons for which a sheet cannot be built or a cell cannot be written. -/
inductive SheetError where
  | unreadableFormula (input : String) (cause : FormulaError)
  /-- Evaluating the formula never ends. -/
  | circularReference (input : String)
  | outOfBounds (row column : UInt64)
  | tooManyColumns (columns : UInt64)
  | invalidBuiltIn (name : String)
  | builtInIsAddress (name : String)
  deriving Repr, DecidableEq

/-- The reason in words. -/
def SheetError.message : SheetError → String
  | .unreadableFormula input _ => "Unable to parse: " ++ input
  | .circularReference input => "Circular reference: " ++ input
  | .outOfBounds row column =>
    "Cell out of bounds: row " ++ row.toNat.repr ++ ", column " ++ column.toNat.repr
  | .tooManyColumns columns => "Sheet can have at most 26 columns, got " ++ columns.toNat.repr
  | .invalidBuiltIn name => "Invalid built-in name: " ++ Text.quoted name
  | .builtInIsAddress name => "Built-in name " ++ name ++ " is a cell address"

end Spreadsheet
