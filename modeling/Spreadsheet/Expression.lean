import Spreadsheet.Decimal
import Spreadsheet.Operator
import Std.Data.ExtTreeSet

namespace Spreadsheet

/-!
# Expressions

An expression is what a formula means: a number, a name, nothing at all, or an operator with one
operand or more. This module holds the type with its decidable equality, the names that an
expression reads, and its text.
-/

/-- The meaning of a formula. -/
inductive Expression where
  | constant (value : Int64)
  /-- A name: the address of a cell, a built-in, or a name that nothing is bound to. -/
  | reference (name : String)
  | empty
  /-- An operator and its operands, of which there is at least one. -/
  | operation (operator : Operator) (first : Expression) (rest : List Expression)
  deriving Repr, Inhabited

namespace Expression

mutual

/-- Decides whether two expressions are equal. -/
def decideEqual : (left right : Expression) → Decidable (left = right)
  | .constant left, .constant right =>
    if same : left = right then isTrue (by rw [same])
    else isFalse fun equal => same (by injection equal)
  | .reference left, .reference right =>
    if same : left = right then isTrue (by rw [same])
    else isFalse fun equal => same (by injection equal)
  | .empty, .empty => isTrue rfl
  | .operation leftOperator leftFirst leftRest, .operation rightOperator rightFirst rightRest =>
    if sameOperator : leftOperator = rightOperator then
      match decideEqual leftFirst rightFirst with
      | isTrue sameFirst =>
        match decideEqualOperands leftRest rightRest with
        | isTrue sameRest => isTrue (by rw [sameOperator, sameFirst, sameRest])
        | isFalse different => isFalse fun equal => different (by injection equal)
      | isFalse different => isFalse fun equal => different (by injection equal)
    else isFalse fun equal => sameOperator (by injection equal)
  | .constant _, .reference _ | .constant _, .empty | .constant _, .operation ..
  | .reference _, .constant _ | .reference _, .empty | .reference _, .operation ..
  | .empty, .constant _ | .empty, .reference _ | .empty, .operation ..
  | .operation .., .constant _ | .operation .., .reference _ | .operation .., .empty =>
    isFalse (by intro equal; injection equal)

/-- Decides whether two lists of expressions are equal. -/
def decideEqualOperands : (left right : List Expression) → Decidable (left = right)
  | [], [] => isTrue rfl
  | leftFirst :: leftRest, rightFirst :: rightRest =>
    match decideEqual leftFirst rightFirst with
    | isTrue sameFirst =>
      match decideEqualOperands leftRest rightRest with
      | isTrue sameRest => isTrue (by rw [sameFirst, sameRest])
      | isFalse different => isFalse fun equal => different (by injection equal)
    | isFalse different => isFalse fun equal => different (by injection equal)
  | [], _ :: _ | _ :: _, [] => isFalse (by intro equal; injection equal)

end

instance : DecidableEq Expression :=
  decideEqual

/-- The expression stands for an empty cell. -/
def isEmpty : Expression → Bool
  | .empty => true
  | _ => false

mutual

/-- The names that the expression reads, from left to right, each as often as it occurs. -/
def references : Expression → List String
  | .constant _ | .empty => []
  | .reference name => [name]
  | .operation _ first rest => first.references ++ referencesOfOperands rest

/-- The names that a list of operands reads. -/
def referencesOfOperands : List Expression → List String
  | [] => []
  | operand :: later => operand.references ++ referencesOfOperands later

end

/-- The names that the expression reads, in the order of names and each once. -/
def dependencies (expression : Expression) : Std.ExtTreeSet String :=
  Std.ExtTreeSet.ofList expression.references

mutual

/-- The characters of the expression's text: operands with the operator between two spaces. -/
def characters : Expression → List Char
  | .constant value => Decimal.writeInteger value.toInt
  | .reference name => name.toList
  | .empty => []
  | .operation operator first rest => first.characters ++ charactersOfOperands operator rest

/-- The characters of the operands after the first, each after the operator. -/
def charactersOfOperands (operator : Operator) : List Expression → List Char
  | [] => []
  | operand :: later =>
    [' ', operator.symbol, ' '] ++ operand.characters ++ charactersOfOperands operator later

end

/-- The text of the expression. -/
def render (expression : Expression) : String :=
  String.ofList expression.characters

end Expression

end Spreadsheet
