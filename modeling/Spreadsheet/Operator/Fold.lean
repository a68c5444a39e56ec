import Spreadsheet.Bounded
import Spreadsheet.Evaluation.Error
import Spreadsheet.Operator

namespace Spreadsheet.Operator

/-!
# What operators compute

An operator takes one number or more. The four arithmetic operators work from left to right on
exact integers and fail at the first partial result that does not fit 64 bits. The two
comparisons look at all numbers at once and answer 1 for yes and 0 for no.
-/

/-- A result that must fit 64 bits. -/
def checked (value : Int) : Except EvaluationError Int64 :=
  match Bounded.int64? value with
  | some word => .ok word
  | none => .error .overflow

/-- The quotient of two numbers, truncated toward zero. -/
def quotient (dividend divisor : Int64) : Except EvaluationError Int64 :=
  if divisor = 0 then
    .error .divisionByZero
  else
    checked (dividend.toInt.tdiv divisor.toInt)

/-- Every number is smaller than the next. -/
def isIncreasing (first : Int64) : List Int64 → Bool
  | [] => true
  | second :: rest => first < second && isIncreasing second rest

/-- The number that stands for an answer. -/
def answer (yes : Bool) : Int64 :=
  if yes then 1 else 0

/-- The number that the operator makes of one number and those that follow it. -/
def fold
    (operator : Operator)
    (first : Int64)
    (rest : List Int64) :
    Except EvaluationError Int64 :=
  match operator with
  | .plus => rest.foldlM (fun total value => checked (total.toInt + value.toInt)) first
  | .minus => rest.foldlM (fun total value => checked (total.toInt - value.toInt)) first
  | .times => rest.foldlM (fun total value => checked (total.toInt * value.toInt)) first
  | .divide => rest.foldlM quotient first
  | .less => .ok (answer (isIncreasing first rest))
  | .equal => .ok (answer (rest.all (· == first)))

end Spreadsheet.Operator
