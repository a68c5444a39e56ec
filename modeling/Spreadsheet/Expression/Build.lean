import Spreadsheet.Expression

namespace Spreadsheet

/-!
# Building operations from names

An operation is built from the name of its operator and a list of operands. The name is looked at
before the operands. A restricted builder refuses some names as if they did not exist.
-/

/-- The reasons for which an operation cannot be built. -/
inductive OperationError where
  | unknownOperator (name : String)
  | noOperands (operator : Operator)
  deriving Repr, DecidableEq

/-- The reason in words. -/
def OperationError.message : OperationError → String
  | .unknownOperator name => "Unknown operator: " ++ name
  | .noOperands operator => "Operator " ++ operator.name ++ " requires at least one operand"

/-- A way to make an operation from a name and operands. -/
abbrev OperationBuilder :=
  String → List Expression → Except OperationError Expression

/-- The operator of a name, which must exist. -/
def Operator.named (name : String) : Except OperationError Operator :=
  match Operator.ofName? name with
  | some operator => .ok operator
  | none => .error (.unknownOperator name)

/-- The operation of a name and its operands. -/
def Expression.build : OperationBuilder := fun name operands => do
  let operator ← Operator.named name
  match operands with
  | [] => .error (.noOperands operator)
  | first :: rest => .ok (.operation operator first rest)

theorem Expression.build_name_cons
    (operator : Operator)
    (first : Expression)
    (rest : List Expression) :
    build operator.name (first :: rest) = .ok (.operation operator first rest) := by
  rw [build, Operator.named, Operator.ofName?_name]
  rfl

theorem Expression.build_name_nil
    (operator : Operator) :
    build operator.name [] = .error (.noOperands operator) := by
  rw [build, Operator.named, Operator.ofName?_name]
  rfl

/-- Builds operations other than those of the refused names. -/
def Expression.buildWithout (refused : List String) : OperationBuilder := fun name operands =>
  if name ∈ refused then
    .error (.unknownOperator name)
  else
    Expression.build name operands

end Spreadsheet
