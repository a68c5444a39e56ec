import Spreadsheet.Evaluation.Error
import Spreadsheet.Expression
import Spreadsheet.Operator.Fold
import Std.Data.ExtTreeMap

namespace Spreadsheet

/-!
# Evaluating expressions in a context

A context binds names to expressions. Evaluation replaces every bound name by what its binding
evaluates to, leaves other names as they are, and computes operations from left to right, each
operand being required to be a number before the next one is looked at. Where each name on a path of
references differs from those before it, the path is no longer than the context is large; so a path
that would follow more names than the context has is circular.
-/

/-- The expressions that names are bound to. -/
abbrev Context := Std.ExtTreeMap String Expression

namespace Expression

/-- The number that an evaluated expression must be to serve as an operand. -/
def value : Expression → Except EvaluationError Int64
  | .constant value => .ok value
  | expression => .error (.notNumeric expression.render)

mutual

/-- Evaluates an expression whose references are resolved by the given function. -/
def reduce
    (resolve : String → Except EvaluationError Expression) :
    Expression → Except EvaluationError Expression
  | .constant value => .ok (.constant value)
  | .reference name => resolve name
  | .empty => .ok .empty
  | .operation operator first rest => do
    let firstValue ← (← reduce resolve first).value
    let restValues ← reduceOperands resolve rest
    return .constant (← operator.fold firstValue restValues)

/-- Evaluates operands from left to right and requires each of them to be a number. -/
def reduceOperands
    (resolve : String → Except EvaluationError Expression) :
    List Expression → Except EvaluationError (List Int64)
  | [] => .ok []
  | operand :: later => do
    let value ← (← reduce resolve operand).value
    let laterValues ← reduceOperands resolve later
    return value :: laterValues

end

/-- What a name evaluates to when at most the given number of bindings may be followed. -/
def resolve
    (context : Context) :
    Nat → String → Except EvaluationError Expression
  | limit, name =>
    match context[name]? with
    | none => .ok (.reference name)
    | some bound =>
      match limit with
      | 0 => .error (.circularReference name)
      | remaining + 1 => reduce (resolve context remaining) bound

/-- What an expression evaluates to in a context. -/
def evaluate
    (context : Context)
    (expression : Expression) :
    Except EvaluationError Expression :=
  reduce (resolve context context.size) expression

end Expression

end Spreadsheet
