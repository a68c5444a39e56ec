import Spreadsheet.Proofs.Evaluation.Agreement

namespace Spreadsheet

/-!
# Contexts with more bindings

A context extends another one if it binds all that the other one binds, each name to the same
expression. An outcome for which nothing was missing is the same in both: only a name that the other
context leaves unbound can mean something now, and only a missing number can turn up. So numbers,
nothing, failed computations and circles stay what they are.
-/

/-- The larger context binds what the smaller one binds, and perhaps more names. -/
def Context.Extends (larger smaller : Context) : Prop :=
  ∀ (name : String) (binding : Expression),
    smaller[name]? = some binding → larger[name]? = some binding

namespace Outcome

variable {α : Type}

/-- An operand is not a number. -/
def IsNotNumeric (outcome : Outcome α) : Prop :=
  ∃ text, outcome = .error (.notNumeric text)

/-- The outcome is a name without a binding, or the complaint that an operand is not a number. -/
def IsUnresolved (outcome : Outcome Expression) : Prop :=
  (∃ name, outcome = .ok (.reference name)) ∨ outcome.IsNotNumeric

/-- The outcome is a number, nothing, or a computation that failed with all its numbers. -/
inductive IsDefinite : Outcome Expression → Prop where
  | number (number : Int64) :
      IsDefinite (.ok (.constant number))
  | empty :
      IsDefinite (.ok .empty)
  | divisionByZero :
      IsDefinite (.error .divisionByZero)
  | overflow :
      IsDefinite (.error .overflow)

/-- The outcomes are the same, unless the first one complains that an operand is not a number. -/
def SameUnlessNotNumeric (first second : Outcome α) : Prop :=
  first.IsNotNumeric ∨ Same first second

/-- The outcomes are the same, unless the first one is unresolved. -/
def SameUnlessUnresolved (first second : Outcome Expression) : Prop :=
  first.IsUnresolved ∨ Same first second

/-- An outcome that waits for a binding is no circle. -/
theorem IsUnresolved.not_isCircular
    {outcome : Outcome Expression}
    (unresolved : outcome.IsUnresolved) :
    ¬ outcome.IsCircular := by
  rcases unresolved with ⟨name, rfl⟩ | ⟨text, rfl⟩ <;> simp [IsCircular]

/-- A definite outcome waits for no binding. -/
theorem IsDefinite.not_isUnresolved
    {outcome : Outcome Expression}
    (definite : outcome.IsDefinite) :
    ¬ outcome.IsUnresolved := by
  cases definite <;> simp [IsUnresolved, IsNotNumeric]

theorem IsDefinite.not_isCircular
    {outcome : Outcome Expression}
    (definite : outcome.IsDefinite) :
    ¬ outcome.IsCircular := by
  cases definite <;> simp [IsCircular]

/-- Unless a number is missing in a step, what is the same in each step is the same at the end. -/
theorem sameUnlessNotNumeric_respectsSteps : RespectsSteps SameUnlessNotNumeric where
  step _ := Or.inr (Same.refl _)
  bind := by
    intro α β first second firstLater secondLater related laterRelated
    rcases related with ⟨text, rfl⟩ | rfl | ⟨firstCircular, secondCircular⟩
    · exact Or.inl ⟨text, rfl⟩
    · exact bind_related first (fun _ => Or.inr (Same.refl _)) laterRelated
    · exact Or.inr (Or.inr ⟨firstCircular.bind firstLater, secondCircular.bind secondLater⟩)

/-- An operand that is a name without a binding is not a number. -/
theorem SameUnlessUnresolved.value
    {first second : Outcome Expression}
    (related : SameUnlessUnresolved first second) :
    SameUnlessNotNumeric (first >>= Expression.value) (second >>= Expression.value) := by
  rcases related with (⟨name, rfl⟩ | ⟨text, rfl⟩) | same
  · exact Or.inl ⟨_, rfl⟩
  · exact Or.inl ⟨text, rfl⟩
  · exact Or.inr (same_respectsSteps.bind same fun _ => Same.refl _)

/-- Either outcome can be replaced by one that is the same. -/
theorem SameUnlessUnresolved.congr
    {first second otherFirst otherSecond : Outcome Expression}
    (related : SameUnlessUnresolved first second)
    (firstSame : Same otherFirst first)
    (secondSame : Same second otherSecond) :
    SameUnlessUnresolved otherFirst otherSecond := by
  rcases related with unresolved | same
  · rw [← firstSame.eq_of_not_isCircular unresolved.not_isCircular] at unresolved
    exact Or.inl unresolved
  · exact Or.inr ((firstSame.trans same).trans secondSame)

end Outcome

namespace Expression

open Outcome (SameUnlessUnresolved)

/-- What holds of the outcomes of all names holds of those of an expression. -/
theorem reduce_sameUnlessUnresolved
    {first second : String → Outcome Expression}
    (related : ∀ name, SameUnlessUnresolved (first name) (second name))
    (expression : Expression) :
    SameUnlessUnresolved (reduce first expression) (reduce second expression) := by
  induction expression using inductionOnOperands with
  | constant value =>
      exact Or.inr (Outcome.Same.refl _)
  | reference name =>
      exact related name
  | empty =>
      exact Or.inr (Outcome.Same.refl _)
  | operation operator head rest inductionHypothesis =>
      -- Whether an operand is unbound or fails, what is missing here is a number.
      have operationRelated :=
        reduce_operation_congr Outcome.sameUnlessNotNumeric_respectsSteps operator
          fun operand member => (inductionHypothesis operand member).value
      exact operationRelated.imp_left Or.inr

section Extension

variable
  {smaller larger : Context}
  (extension : larger.Extends smaller)

include extension

/-- Under one limit a name comes to the same in both contexts, unless it is unresolved. -/
theorem resolve_sameUnlessUnresolved
    (limit : Nat)
    (name : String) :
    SameUnlessUnresolved (resolve smaller limit name) (resolve larger limit name) := by
  induction limit, name using inductionOnLimit smaller with
  | unbound limit name absent =>
      exact Or.inl (Or.inl ⟨name, resolve_of_unbound smaller absent limit⟩)
  | exhausted name bound binds =>
      rw [resolve_zero_of_bound smaller binds,
        resolve_zero_of_bound larger (extension name bound binds)]
      exact Or.inr (Outcome.Same.refl _)
  | follow limit name bound binds inductionHypothesis =>
      rw [resolve_succ_of_bound smaller binds,
        resolve_succ_of_bound larger (extension name bound binds)]
      exact reduce_sameUnlessUnresolved inductionHypothesis bound

/-- More bindings change the outcome of an expression only if it is unresolved without them. -/
theorem evaluate_sameUnlessUnresolved
    (expression : Expression) :
    SameUnlessUnresolved (evaluate smaller expression) (evaluate larger expression) := by
  have related :=
    reduce_sameUnlessUnresolved
      (resolve_sameUnlessUnresolved extension (max smaller.size larger.size)) expression
  have smallerLimit := reduce_same_evaluate (Nat.le_max_left smaller.size larger.size) expression
  have largerLimit := reduce_same_evaluate (Nat.le_max_right smaller.size larger.size) expression
  exact related.congr smallerLimit.symm largerLimit

/-- More bindings leave a definite outcome as it is. -/
theorem evaluate_eq_of_extends
    {expression : Expression}
    {outcome : Outcome Expression}
    (definite : outcome.IsDefinite)
    (evaluates : evaluate smaller expression = outcome) :
    evaluate larger expression = outcome := by
  subst evaluates
  rcases evaluate_sameUnlessUnresolved extension expression with unresolved | same
  · exact absurd unresolved definite.not_isUnresolved
  · exact same.symm.eq_of_not_isCircular definite.not_isCircular

/-- More bindings do not break a circle. -/
theorem isCircular_evaluate_of_extends
    {expression : Expression}
    (circular : Outcome.IsCircular (evaluate smaller expression)) :
    Outcome.IsCircular (evaluate larger expression) := by
  rcases evaluate_sameUnlessUnresolved extension expression with unresolved | same
  · exact absurd circular unresolved.not_isCircular
  · exact same.isCircular_iff.mp circular

end Extension

end Expression

end Spreadsheet
