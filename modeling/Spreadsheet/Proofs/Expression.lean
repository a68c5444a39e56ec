import Spreadsheet.Expression

namespace Spreadsheet.Expression

/-!
# Induction over expressions

An operation has its operands in a list. The induction principle of this module speaks of all
operands at once, and so do the equations of the functions that run over operands.
-/

/-- To prove a property of all expressions, prove it of an operation from its operands. -/
@[elab_as_elim]
theorem inductionOnOperands
    {motive : Expression → Prop}
    (expression : Expression)
    (constant : ∀ value, motive (.constant value))
    (reference : ∀ name, motive (.reference name))
    (empty : motive .empty)
    (operation :
      ∀ operator first rest,
        (∀ operand ∈ first :: rest, motive operand) →
          motive (.operation operator first rest)) :
    motive expression := by
  refine Expression.rec
    (motive_1 := motive)
    (motive_2 := fun operands => ∀ operand ∈ operands, motive operand)
    constant reference empty ?_ ?_ ?_ expression
  · intro operator first rest firstHolds restHold
    apply operation
    intro operand member
    rcases List.mem_cons.mp member with isFirst | inRest
    · subst isFirst
      exact firstHolds
    · exact restHold operand inRest
  · intro operand member
    contradiction
  · intro head later headHolds laterHold operand member
    rcases List.mem_cons.mp member with isHead | inLater
    · subst isHead
      exact headHolds
    · exact laterHold operand inLater

theorem charactersOfOperands_eq_flatMap
    (operator : Operator)
    (operands : List Expression) :
    charactersOfOperands operator operands =
      operands.flatMap fun operand =>
        [' ', operator.symbol, ' '] ++ operand.characters := by
  induction operands with
  | nil =>
      rfl
  | cons operand later inductionHypothesis =>
      rw [charactersOfOperands, inductionHypothesis, List.flatMap_cons]

theorem referencesOfOperands_eq_flatMap
    (operands : List Expression) :
    referencesOfOperands operands = operands.flatMap references := by
  induction operands with
  | nil =>
      rfl
  | cons operand later inductionHypothesis =>
      rw [referencesOfOperands, inductionHypothesis, List.flatMap_cons]

/-- The names of an operation are those of its operands. -/
theorem references_operation
    (operator : Operator)
    (first : Expression)
    (rest : List Expression) :
    (Expression.operation operator first rest).references =
      (first :: rest).flatMap references := by
  rw [references, referencesOfOperands_eq_flatMap, List.flatMap_cons]

theorem mem_dependencies
    {name : String}
    {expression : Expression} :
    name ∈ expression.dependencies ↔ name ∈ expression.references := by
  simp [dependencies]

end Spreadsheet.Expression
