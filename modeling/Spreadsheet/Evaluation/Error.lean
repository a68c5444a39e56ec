namespace Spreadsheet

/-!
# Why an expression has no value
-/

/-- The reasons for which evaluating an expression fails. -/
inductive EvaluationError where
  /-- An operand reduces to something other than a number, shown by its text. -/
  | notNumeric (text : String)
  | divisionByZero
  | overflow
  /-- Following references never ends; the name is the one at which following was given up. -/
  | circularReference (name : String)
  deriving Repr, DecidableEq

/-- The reason in words. -/
def EvaluationError.message : EvaluationError → String
  | .notNumeric text => "Cannot convert to numeric value: " ++ text
  | .divisionByZero => "Division by zero"
  | .overflow => "Integer overflow"
  | .circularReference name => "Circular reference through " ++ name

end Spreadsheet
