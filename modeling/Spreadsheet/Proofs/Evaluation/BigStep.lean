import Spreadsheet.Proofs.Evaluation.Limit

namespace Spreadsheet.Expression

/-!
# Evaluation without a limit

The rules of this module say what an expression evaluates to with no bound on the bindings that are
followed. They derive no outcome for an expression whose references go round in a circle before
anything else decides. Evaluation finds exactly the outcomes that the rules derive, and complains
about a circle exactly where they derive none.
-/

mutual

/-- What an expression evaluates to. -/
inductive Evaluates (context : Context) : Expression → Outcome Expression → Prop where
  | constant (value : Int64) :
      Evaluates context (.constant value) (.ok (.constant value))
  | empty :
      Evaluates context .empty (.ok .empty)
  | unbound {name : String} :
      context[name]? = none →
      Evaluates context (.reference name) (.ok (.reference name))
  | bound {name : String} {binding : Expression} {outcome : Outcome Expression} :
      context[name]? = some binding →
      Evaluates context binding outcome →
      Evaluates context (.reference name) outcome
  | operation {operator : Operator} {first : Expression} {rest : List Expression}
      {value : Int64} {values : List Int64} :
      EvaluatesOperands context (first :: rest) (.ok (value :: values)) →
      Evaluates context (.operation operator first rest)
        ((operator.fold value values).map .constant)
  | operandFails {operator : Operator} {first : Expression} {rest : List Expression}
      {cause : EvaluationError} :
      EvaluatesOperands context (first :: rest) (.error cause) →
      Evaluates context (.operation operator first rest) (.error cause)

/-- What operands evaluate to, from left to right and each required to be a number. -/
inductive EvaluatesOperands (context : Context) :
    List Expression → Outcome (List Int64) → Prop where
  | nil :
      EvaluatesOperands context [] (.ok [])
  | cons {operand : Expression} {later : List Expression}
      {value : Int64} {outcome : Outcome (List Int64)} :
      Evaluates context operand (.ok (.constant value)) →
      EvaluatesOperands context later outcome →
      EvaluatesOperands context (operand :: later) (outcome.map (value :: ·))
  | notNumeric {operand reduced : Expression} {later : List Expression} :
      Evaluates context operand (.ok reduced) →
      (∀ value, reduced ≠ .constant value) →
      EvaluatesOperands context (operand :: later) (.error (.notNumeric reduced.render))
  | fails {operand : Expression} {later : List Expression} {cause : EvaluationError} :
      Evaluates context operand (.error cause) →
      EvaluatesOperands context (operand :: later) (.error cause)

end

/-! ## What operands and operations reduce to -/

theorem value_of_not_constant
    {expression : Expression}
    (notConstant : ∀ value, expression ≠ .constant value) :
    expression.value = .error (.notNumeric expression.render) := by
  cases expression with
  | constant value =>
      exact absurd rfl (notConstant value)
  | reference | empty | operation =>
      rfl

section Reduction

variable {resolve : String → Outcome Expression}

/-- The number of the first operand comes before those of the others. -/
theorem reduceOperands_cons_of_constant
    {operand : Expression}
    {value : Int64}
    (reduces : reduce resolve operand = .ok (.constant value))
    (later : List Expression) :
    reduceOperands resolve (operand :: later) =
      (reduceOperands resolve later).map (value :: ·) := by
  simp only [reduceOperands, reduces]
  rfl

/-- An operand that is no number is complained about before the others are looked at. -/
theorem reduceOperands_cons_of_not_constant
    {operand reduced : Expression}
    (reduces : reduce resolve operand = .ok reduced)
    (notConstant : ∀ value, reduced ≠ .constant value)
    (later : List Expression) :
    reduceOperands resolve (operand :: later) = .error (.notNumeric reduced.render) := by
  have notNumeric := value_of_not_constant notConstant
  simp only [reduceOperands, reduces, bind, Except.bind, notNumeric]

/-- An operand that fails is complained about before the others are looked at. -/
theorem reduceOperands_cons_of_error
    {operand : Expression}
    {cause : EvaluationError}
    (reduces : reduce resolve operand = .error cause)
    (later : List Expression) :
    reduceOperands resolve (operand :: later) = .error cause := by
  simp only [reduceOperands, reduces]
  rfl

/-- An operation fails with its operands, or computes with their numbers. -/
theorem reduce_operation_cases
    (resolve : String → Outcome Expression)
    (operator : Operator)
    (first : Expression)
    (rest : List Expression) :
    (∃ cause,
      reduceOperands resolve (first :: rest) = .error cause ∧
        reduce resolve (.operation operator first rest) = .error cause) ∨
    ∃ value values,
      reduceOperands resolve (first :: rest) = .ok (value :: values) ∧
        reduce resolve (.operation operator first rest) =
          (operator.fold value values).map .constant := by
  simp only [reduceOperands, reduce, bind, Except.bind]
  cases reduce resolve first with
  | error cause =>
      exact Or.inl ⟨cause, rfl, rfl⟩
  | ok reduced =>
      cases isNumber : reduced.value with
      | error cause =>
          exact Or.inl ⟨cause, by simp only [isNumber], by simp only [isNumber]⟩
      | ok value =>
          cases reduceOperands resolve rest with
          | error cause =>
              exact Or.inl ⟨cause, by simp only [isNumber], by simp only [isNumber]⟩
          | ok values =>
              refine Or.inr ⟨value, values, by simp only [isNumber, pure, Except.pure], ?_⟩
              simp only [isNumber]
              rfl

theorem reduce_operation_of_error
    {operator : Operator}
    {first : Expression}
    {rest : List Expression}
    {cause : EvaluationError}
    (operandsFail : reduceOperands resolve (first :: rest) = .error cause) :
    reduce resolve (.operation operator first rest) = .error cause := by
  rcases reduce_operation_cases resolve operator first rest with
    ⟨otherCause, otherFail, fails⟩ | ⟨value, values, operandsReduce, _⟩
  · rw [otherFail] at operandsFail
    rw [fails, Except.error.inj operandsFail]
  · simp [operandsReduce] at operandsFail

/-- An operation computes with the numbers of its operands. -/
theorem reduce_operation_of_ok
    {operator : Operator}
    {first : Expression}
    {rest : List Expression}
    {value : Int64}
    {values : List Int64}
    (operandsReduce : reduceOperands resolve (first :: rest) = .ok (value :: values)) :
    reduce resolve (.operation operator first rest) =
      (operator.fold value values).map .constant := by
  rcases reduce_operation_cases resolve operator first rest with
    ⟨cause, operandsFail, _⟩ | ⟨otherValue, otherValues, otherReduce, reduces⟩
  · simp [operandsFail] at operandsReduce
  · rw [otherReduce] at operandsReduce
    obtain ⟨rfl, rfl⟩ := List.cons.inj (Except.ok.inj operandsReduce)
    exact reduces

end Reduction

/-! ## Soundness -/

/-- Reducing operands follows the rules if reducing each of them does. -/
theorem evaluatesOperands_of_reduceOperands
    {context : Context}
    {resolve : String → Outcome Expression}
    {operands : List Expression}
    (sound :
      ∀ operand ∈ operands, ¬ Outcome.IsCircular (reduce resolve operand) →
        Evaluates context operand (reduce resolve operand))
    (notCircular : ¬ Outcome.IsCircular (reduceOperands resolve operands)) :
    EvaluatesOperands context operands (reduceOperands resolve operands) := by
  induction operands with
  | nil =>
      exact .nil
  | cons operand later inductionHypothesis =>
      have soundHere := sound operand (List.mem_cons_self ..)
      have soundLater := inductionHypothesis fun other member =>
        sound other (List.mem_cons_of_mem _ member)
      cases reduces : reduce resolve operand with
      | error cause =>
          rw [reduceOperands_cons_of_error reduces] at notCircular ⊢
          rw [reduces] at soundHere
          apply EvaluatesOperands.fails
          apply soundHere
          exact fun circular => notCircular (Outcome.isCircular_error_iff.mp circular)
      | ok reduced =>
          rw [reduces] at soundHere
          have evaluates := soundHere (Outcome.not_isCircular_ok reduced)
          by_cases isConstant : ∃ value, reduced = .constant value
          · obtain ⟨value, rfl⟩ := isConstant
            rw [reduceOperands_cons_of_constant reduces] at notCircular ⊢
            apply EvaluatesOperands.cons evaluates
            apply soundLater
            exact fun circular => notCircular ((Outcome.isCircular_map_iff _).mpr circular)
          · have notConstant : ∀ value, reduced ≠ .constant value :=
              fun value equal => isConstant ⟨value, equal⟩
            rw [reduceOperands_cons_of_not_constant reduces notConstant]
            exact EvaluatesOperands.notNumeric evaluates notConstant

/-- What reduction finds by following sound names, other than a circle, follows by the rules. -/
theorem evaluates_of_reduce
    {context : Context}
    {resolve : String → Outcome Expression}
    (sound :
      ∀ name, ¬ (resolve name).IsCircular → Evaluates context (.reference name) (resolve name))
    {expression : Expression}
    (notCircular : ¬ Outcome.IsCircular (reduce resolve expression)) :
    Evaluates context expression (reduce resolve expression) := by
  induction expression using inductionOnOperands with
  | constant value =>
      exact .constant value
  | reference name =>
      exact sound name notCircular
  | empty =>
      exact .empty
  | operation operator first rest inductionHypothesis =>
      have operandsSound := fun operandsNotCircular =>
        evaluatesOperands_of_reduceOperands
          (fun operand member => inductionHypothesis operand member) operandsNotCircular
      rcases reduce_operation_cases resolve operator first rest with
        ⟨cause, operandsFail, fails⟩ | ⟨value, values, operandsReduce, reduces⟩
      · rw [fails] at notCircular ⊢
        rw [operandsFail] at operandsSound
        apply Evaluates.operandFails
        apply operandsSound
        exact fun circular => notCircular (Outcome.isCircular_error_iff.mp circular)
      · rw [reduces]
        rw [operandsReduce] at operandsSound
        exact .operation (operandsSound (Outcome.not_isCircular_ok _))

/-- Resolving a name follows the rules, unless the limit stops it. -/
theorem evaluates_of_resolve
    (context : Context)
    (limit : Nat)
    {name : String}
    (notCircular : ¬ Outcome.IsCircular (resolve context limit name)) :
    Evaluates context (.reference name) (resolve context limit name) := by
  induction limit, name using inductionOnLimit context with
  | unbound limit name absent =>
      rw [resolve_of_unbound context absent]
      exact .unbound absent
  | exhausted name bound binds =>
      exact absurd ⟨name, resolve_zero_of_bound context binds⟩ notCircular
  | follow limit name bound binds inductionHypothesis =>
      rw [resolve_succ_of_bound context binds] at notCircular ⊢
      apply Evaluates.bound binds
      exact evaluates_of_reduce inductionHypothesis notCircular

/-- Evaluation is sound: what it finds, if it finds no circle, follows by the rules. -/
theorem evaluates_evaluate
    {context : Context}
    {expression : Expression}
    (notCircular : ¬ Outcome.IsCircular (evaluate context expression)) :
    Evaluates context expression (evaluate context expression) :=
  evaluates_of_reduce (fun _ => evaluates_of_resolve context context.size) notCircular

/-! ## Completeness -/

-- Both theorems of a pair go by induction on the derivation.
mutual

theorem Evaluates.not_isCircular
    {context : Context}
    {expression : Expression}
    {outcome : Outcome Expression} :
    Evaluates context expression outcome → ¬ outcome.IsCircular
  | .constant _ | .empty | .unbound _ =>
      Outcome.not_isCircular_ok _
  | .bound _ evaluates =>
      evaluates.not_isCircular
  | .operation _ => by
      rw [Outcome.isCircular_map_iff]
      exact Operator.not_isCircular_fold _ _ _
  | .operandFails operands => by
      rw [Outcome.isCircular_error_iff]
      exact operands.not_isCircular

theorem EvaluatesOperands.not_isCircular
    {context : Context}
    {operands : List Expression}
    {outcome : Outcome (List Int64)} :
    EvaluatesOperands context operands outcome → ¬ outcome.IsCircular
  | .nil =>
      Outcome.not_isCircular_ok _
  | .cons _ later => by
      rw [Outcome.isCircular_map_iff]
      exact later.not_isCircular
  | .notNumeric _ _ => by
      simp [Outcome.IsCircular]
  | .fails evaluates => by
      rw [Outcome.isCircular_error_iff]
      exact evaluates.not_isCircular

end

mutual

/-- Evaluation is complete: it finds what follows by the rules. -/
theorem evaluate_eq_of_evaluates
    {context : Context}
    {expression : Expression}
    {outcome : Outcome Expression} :
    Evaluates context expression outcome → evaluate context expression = outcome
  | .constant _ | .empty =>
      rfl
  | .unbound absent =>
      resolve_of_unbound context absent context.size
  | .bound binds evaluates => by
      have found := evaluate_eq_of_evaluates evaluates
      have same := evaluate_bound_same binds
      rw [found] at same
      exact same.symm.eq_of_not_isCircular evaluates.not_isCircular
  | .operation operands =>
      reduce_operation_of_ok (reduceOperands_eq_of_evaluates operands)
  | .operandFails operands =>
      reduce_operation_of_error (reduceOperands_eq_of_evaluates operands)

theorem reduceOperands_eq_of_evaluates
    {context : Context}
    {operands : List Expression}
    {outcome : Outcome (List Int64)} :
    EvaluatesOperands context operands outcome →
      reduceOperands (resolve context context.size) operands = outcome
  | .nil =>
      rfl
  | .cons evaluates later => by
      have found := evaluate_eq_of_evaluates evaluates
      rw [reduceOperands_cons_of_constant found, reduceOperands_eq_of_evaluates later]
  | .notNumeric evaluates notConstant => by
      have found := evaluate_eq_of_evaluates evaluates
      exact reduceOperands_cons_of_not_constant found notConstant _
  | .fails evaluates => by
      have found := evaluate_eq_of_evaluates evaluates
      exact reduceOperands_cons_of_error found _

end

/-! ## Exactness -/

/-- The rules derive at most one outcome. -/
theorem Evaluates.unique
    {context : Context}
    {expression : Expression}
    {first second : Outcome Expression}
    (evaluatesFirst : Evaluates context expression first)
    (evaluatesSecond : Evaluates context expression second) :
    first = second := by
  rw [← evaluate_eq_of_evaluates evaluatesFirst, evaluate_eq_of_evaluates evaluatesSecond]

/-- The rules and evaluation agree on every outcome other than a circle. -/
theorem evaluate_eq_iff_evaluates
    {context : Context}
    {expression : Expression}
    {outcome : Outcome Expression}
    (notCircular : ¬ outcome.IsCircular) :
    evaluate context expression = outcome ↔ Evaluates context expression outcome := by
  constructor
  · intro found
    rw [← found] at notCircular ⊢
    exact evaluates_evaluate notCircular
  · exact evaluate_eq_of_evaluates

/-- Evaluation finds a circle exactly where the rules give no outcome. -/
theorem isCircular_evaluate_iff
    {context : Context}
    {expression : Expression} :
    Outcome.IsCircular (evaluate context expression) ↔
      ∀ outcome, ¬ Evaluates context expression outcome := by
  constructor
  · intro circular outcome evaluates
    rw [evaluate_eq_of_evaluates evaluates] at circular
    exact evaluates.not_isCircular circular
  · intro derivesNothing
    by_contra notCircular
    exact derivesNothing _ (evaluates_evaluate notCircular)

/--
Evaluation without a limit has exactly the outcomes that evaluation finds within its limit, and
evaluation finds a circle exactly where the rules derive no outcome.
-/
theorem evaluate_is_exact
    (context : Context)
    (expression : Expression) :
    (∀ value,
      evaluate context expression = .ok value ↔
        Evaluates context expression (.ok value)) ∧
    (∀ text,
      evaluate context expression = .error (.notNumeric text) ↔
        Evaluates context expression (.error (.notNumeric text))) ∧
    (evaluate context expression = .error .divisionByZero ↔
      Evaluates context expression (.error .divisionByZero)) ∧
    (evaluate context expression = .error .overflow ↔
      Evaluates context expression (.error .overflow)) ∧
    ((∃ name, evaluate context expression = .error (.circularReference name)) ↔
      ∀ outcome, ¬ Evaluates context expression outcome) := by
  refine ⟨?_, ?_, ?_, ?_, isCircular_evaluate_iff⟩
  · intro value
    exact evaluate_eq_iff_evaluates (Outcome.not_isCircular_ok value)
  · intro text
    exact evaluate_eq_iff_evaluates (by simp [Outcome.IsCircular])
  · exact evaluate_eq_iff_evaluates (by simp [Outcome.IsCircular])
  · exact evaluate_eq_iff_evaluates (by simp [Outcome.IsCircular])

end Spreadsheet.Expression
