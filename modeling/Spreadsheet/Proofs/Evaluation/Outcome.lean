import Spreadsheet.Evaluation
import Spreadsheet.Proofs.Expression

namespace Spreadsheet

/-!
# Outcomes of evaluation

An outcome is a value or the reason for which there is none. Evaluation passes outcomes on from
the names of an expression to the expression. It compares, from step to step, what two evaluations
of one expression make of the names, and it never finds a circle that no name has.
-/

/-- A value, or the reason for which there is none. -/
abbrev Outcome (α : Type) := Except EvaluationError α

namespace Outcome

variable {α β : Type}

/-- There is no value because following references never ends. -/
def IsCircular (outcome : Outcome α) : Prop :=
  ∃ name, outcome = .error (.circularReference name)

instance (outcome : Outcome α) : Decidable outcome.IsCircular :=
  match outcome with
  | .error (.circularReference name) =>
      isTrue ⟨name, rfl⟩
  | .ok _ | .error (.notNumeric _) | .error .divisionByZero | .error .overflow =>
      isFalse (by simp [IsCircular])

/-- The outcomes are the same, up to the name in the complaint about a circle. -/
def Same (first second : Outcome α) : Prop :=
  first = second ∨ first.IsCircular ∧ second.IsCircular

/-- The first outcome is the second one, or circular. -/
def Approximates (first second : Outcome α) : Prop :=
  first = second ∨ first.IsCircular

/--
A relation between the outcomes of two computations that holds if it holds between the outcomes of
their steps. The steps that ask for no name have one outcome, which is not circular.
-/
structure RespectsSteps
    (Related : {α : Type} → Outcome α → Outcome α → Prop) : Prop where
  step : ∀ {α : Type} {outcome : Outcome α}, ¬ outcome.IsCircular → Related outcome outcome
  bind : ∀ {α β : Type} {first second : Outcome α}
      {firstLater secondLater : α → Outcome β},
    Related first second →
    (∀ value, Related (firstLater value) (secondLater value)) →
    Related (first >>= firstLater) (second >>= secondLater)

theorem not_isCircular_ok
    (value : α) :
    ¬ IsCircular (.ok value) := by
  rintro ⟨name, isError⟩
  contradiction

/-- Whether a failure is a circle does not depend on what was to be computed. -/
theorem isCircular_error_iff
    {cause : EvaluationError} :
    IsCircular (.error cause : Outcome α) ↔ IsCircular (.error cause : Outcome β) := by
  simp [IsCircular]

/-- A circle is none of the value, so that changing the value makes no difference. -/
theorem isCircular_map_iff
    {outcome : Outcome α}
    (transform : α → β) :
    IsCircular (outcome.map transform) ↔ outcome.IsCircular := by
  cases outcome with
  | ok value =>
      exact iff_of_false (not_isCircular_ok _) (not_isCircular_ok value)
  | error cause =>
      exact isCircular_error_iff

/-- An outcome that has a value after a change of values had one before. -/
theorem exists_ok_of_map
    {outcome : Outcome α}
    {transform : α → β}
    (isOk : ∃ value, outcome.map transform = .ok value) :
    ∃ value, outcome = .ok value := by
  cases outcome with
  | ok value =>
      exact ⟨value, rfl⟩
  | error cause =>
      simp [Except.map] at isOk

/-- A circle ends the computation that runs into it. -/
theorem IsCircular.bind
    {outcome : Outcome α}
    (circular : outcome.IsCircular)
    (later : α → Outcome β) :
    IsCircular (outcome >>= later) := by
  obtain ⟨name, rfl⟩ := circular
  exact ⟨name, rfl⟩

/-- A computation in two steps is circular only if one of them is. -/
theorem not_isCircular_bind
    {outcome : Outcome α}
    {later : α → Outcome β}
    (notCircular : ¬ outcome.IsCircular)
    (laterNotCircular : ∀ value, ¬ (later value).IsCircular) :
    ¬ IsCircular (outcome >>= later) := by
  cases outcome with
  | ok value =>
      exact laterNotCircular value
  | error cause =>
      exact fun circular => notCircular (isCircular_error_iff.mp circular)

theorem Same.refl
    (outcome : Outcome α) :
    Same outcome outcome :=
  Or.inl rfl

theorem Same.symm
    {first second : Outcome α}
    (same : Same first second) :
    Same second first := by
  rcases same with equal | ⟨firstCircular, secondCircular⟩
  · exact Or.inl equal.symm
  · exact Or.inr ⟨secondCircular, firstCircular⟩

theorem Same.trans
    {first second third : Outcome α}
    (same : Same first second)
    (next : Same second third) :
    Same first third := by
  rcases same with rfl | ⟨firstCircular, secondCircular⟩
  · exact next
  · rcases next with rfl | ⟨_, thirdCircular⟩
    · exact Or.inr ⟨firstCircular, secondCircular⟩
    · exact Or.inr ⟨firstCircular, thirdCircular⟩

/-- Of two outcomes that are the same, both are circular or neither is. -/
theorem Same.isCircular_iff
    {first second : Outcome α}
    (same : Same first second) :
    first.IsCircular ↔ second.IsCircular := by
  rcases same with rfl | ⟨firstCircular, secondCircular⟩
  · exact Iff.rfl
  · exact ⟨fun _ => secondCircular, fun _ => firstCircular⟩

/-- Outcomes that are the same are equal if they are not circular. -/
theorem Same.eq_of_not_isCircular
    {first second : Outcome α}
    (same : Same first second)
    (notCircular : ¬ second.IsCircular) :
    first = second := by
  rcases same with equal | ⟨_, secondCircular⟩
  · exact equal
  · exact absurd secondCircular notCircular

/-- Outcomes that are the same agree on every outcome that is no complaint about a circle. -/
theorem Same.eq_iff
    {first second outcome : Outcome α}
    (same : Same first second)
    (notCircular : ¬ outcome.IsCircular) :
    first = outcome ↔ second = outcome := by
  constructor
  · rintro rfl
    exact same.symm.eq_of_not_isCircular notCircular
  · rintro rfl
    exact same.eq_of_not_isCircular notCircular

/-- Steps that are related after every value are related after an outcome, which may be a failure. -/
theorem bind_related
    {Related : Outcome β → Outcome β → Prop}
    (outcome : Outcome α)
    {firstLater secondLater : α → Outcome β}
    (ofError : ∀ cause, Related (.error cause) (.error cause))
    (ofValue : ∀ value, Related (firstLater value) (secondLater value)) :
    Related (outcome >>= firstLater) (outcome >>= secondLater) := by
  cases outcome with
  | ok value =>
      exact ofValue value
  | error cause =>
      exact ofError cause

/-- Computations that are the same in each step have the same outcome. -/
theorem same_respectsSteps : RespectsSteps Same where
  step _ := Or.inl rfl
  bind := by
    intro α β first second firstLater secondLater same laterSame
    rcases same with rfl | ⟨firstCircular, secondCircular⟩
    · exact bind_related first (fun _ => Or.inl rfl) laterSame
    · exact Or.inr ⟨firstCircular.bind firstLater, secondCircular.bind secondLater⟩

theorem eq_respectsSteps :
    RespectsSteps fun first second => first = second where
  step _ := rfl
  bind := by
    intro α β first second firstLater secondLater equal laterEqual
    rw [equal, funext laterEqual]

/-- A computation that approximates another one in each step approximates it as a whole. -/
theorem approximates_respectsSteps : RespectsSteps Approximates where
  step _ := Or.inl rfl
  bind := by
    intro α β first second firstLater secondLater approximates laterApproximates
    rcases approximates with rfl | firstCircular
    · exact bind_related first (fun _ => Or.inl rfl) laterApproximates
    · exact Or.inr (firstCircular.bind firstLater)

/-- A computation complains about a circle of a name only if one of its steps does. -/
theorem ne_circularReference_respectsSteps
    (name : String) :
    RespectsSteps fun outcome _ => outcome ≠ .error (.circularReference name) where
  step notCircular := fun circular => notCircular ⟨name, circular⟩
  bind := by
    intro α β first second firstLater secondLater different laterDifferent
    cases first with
    | ok value =>
        exact laterDifferent value
    | error cause =>
        intro circular
        obtain rfl := Except.error.inj circular
        exact different rfl

end Outcome

/-- A number that does not fit is no circle. -/
theorem Operator.not_isCircular_checked
    (value : Int) :
    ¬ Outcome.IsCircular (checked value) := by
  rintro ⟨name, isCircular⟩
  unfold checked at isCircular
  split at isCircular <;> simp at isCircular

theorem Operator.not_isCircular_quotient
    (dividend divisor : Int64) :
    ¬ Outcome.IsCircular (quotient dividend divisor) := by
  unfold quotient
  by_cases isZero : divisor = 0
  · rw [if_pos isZero]
    rintro ⟨name, isCircular⟩
    simp at isCircular
  · rw [if_neg isZero]
    exact not_isCircular_checked _

/-- A fold is circular only if one of its steps is. -/
theorem Operator.not_isCircular_foldlM
    {step : Int64 → Int64 → Outcome Int64}
    (notCircular : ∀ total value, ¬ (step total value).IsCircular)
    (values : List Int64)
    (first : Int64) :
    ¬ Outcome.IsCircular (values.foldlM step first) := by
  induction values generalizing first with
  | nil =>
      exact Outcome.not_isCircular_ok first
  | cons value later inductionHypothesis =>
      simp only [List.foldlM_cons]
      exact Outcome.not_isCircular_bind (notCircular first value) inductionHypothesis

/-- Computing with numbers never finds a circle. -/
theorem Operator.not_isCircular_fold
    (operator : Operator)
    (first : Int64)
    (rest : List Int64) :
    ¬ Outcome.IsCircular (operator.fold first rest) := by
  cases operator with
  | plus | minus | times =>
      exact not_isCircular_foldlM (fun _ _ => not_isCircular_checked _) rest first
  | divide =>
      exact not_isCircular_foldlM not_isCircular_quotient rest first
  | less | equal =>
      exact Outcome.not_isCircular_ok _

namespace Expression

/-- Asking an expression for its number finds no circle. -/
theorem not_isCircular_value
    (expression : Expression) :
    ¬ Outcome.IsCircular expression.value := by
  cases expression <;> simp [value, Outcome.IsCircular]

/-- Operands are reduced to numbers from left to right. -/
theorem reduceOperands_cons
    (resolve : String → Outcome Expression)
    (operand : Expression)
    (later : List Expression) :
    reduceOperands resolve (operand :: later) =
      (reduce resolve operand >>= value) >>= fun number => do
        let numbers ← reduceOperands resolve later
        return number :: numbers := by
  rw [bind_assoc]
  rfl

/-- An operation reduces its operands to numbers, the first one first, and then computes. -/
theorem reduce_operation
    (resolve : String → Outcome Expression)
    (operator : Operator)
    (first : Expression)
    (rest : List Expression) :
    reduce resolve (.operation operator first rest) =
      (reduce resolve first >>= value) >>= fun number => do
        let numbers ← reduceOperands resolve rest
        return .constant (← operator.fold number numbers) := by
  rw [bind_assoc]
  rfl

/-- The numbers that operands reduce to decide the outcome of the list. -/
theorem reduceOperands_congr
    {Related : {α : Type} → Outcome α → Outcome α → Prop}
    (respects : Outcome.RespectsSteps Related)
    {first second : String → Outcome Expression}
    {operands : List Expression}
    (related :
      ∀ operand ∈ operands,
        Related (reduce first operand >>= value) (reduce second operand >>= value)) :
    Related (reduceOperands first operands) (reduceOperands second operands) := by
  induction operands with
  | nil =>
      exact respects.step (Outcome.not_isCircular_ok [])
  | cons operand later inductionHypothesis =>
      have laterRelated :
          Related (reduceOperands first later) (reduceOperands second later) :=
        inductionHypothesis fun other member =>
          related other (List.mem_cons_of_mem _ member)
      rw [reduceOperands_cons, reduceOperands_cons]
      apply respects.bind (related operand (List.mem_cons_self ..))
      intro number
      apply respects.bind laterRelated
      intro numbers
      exact respects.step (Outcome.not_isCircular_ok _)

/-- The numbers that its operands reduce to decide the outcome of an operation. -/
theorem reduce_operation_congr
    {Related : {α : Type} → Outcome α → Outcome α → Prop}
    (respects : Outcome.RespectsSteps Related)
    {first second : String → Outcome Expression}
    (operator : Operator)
    {head : Expression}
    {rest : List Expression}
    (related :
      ∀ operand ∈ head :: rest,
        Related (reduce first operand >>= value) (reduce second operand >>= value)) :
    Related (reduce first (.operation operator head rest))
      (reduce second (.operation operator head rest)) := by
  rw [reduce_operation, reduce_operation]
  apply respects.bind (related head (List.mem_cons_self ..))
  intro number
  apply respects.bind
    (reduceOperands_congr respects fun operand member =>
      related operand (List.mem_cons_of_mem _ member))
  intro numbers
  apply respects.bind (respects.step (operator.not_isCircular_fold number numbers))
  intro result
  exact respects.step (Outcome.not_isCircular_ok _)

/-- The outcomes of its names decide the outcome of an expression. -/
theorem reduce_congr
    {Related : {α : Type} → Outcome α → Outcome α → Prop}
    (respects : Outcome.RespectsSteps Related)
    {first second : String → Outcome Expression}
    {expression : Expression}
    (related : ∀ name ∈ expression.references, Related (first name) (second name)) :
    Related (reduce first expression) (reduce second expression) := by
  induction expression using inductionOnOperands with
  | constant value =>
      exact respects.step (Outcome.not_isCircular_ok _)
  | reference name =>
      exact related name (List.mem_singleton_self name)
  | empty =>
      exact respects.step (Outcome.not_isCircular_ok _)
  | operation operator head rest inductionHypothesis =>
      apply reduce_operation_congr respects
      intro operand member
      have operandRelated : Related (reduce first operand) (reduce second operand) := by
        apply inductionHypothesis operand member
        intro name inOperand
        apply related
        rw [references_operation]
        exact List.mem_flatMap.mpr ⟨operand, member, inOperand⟩
      exact respects.bind operandRelated fun reduced =>
        respects.step (not_isCircular_value reduced)

/-- A circle that an expression runs into is one that a name of the expression runs into. -/
theorem exists_reference_of_circular
    {resolve : String → Outcome Expression}
    {expression : Expression}
    {name : String}
    (circular : reduce resolve expression = .error (.circularReference name)) :
    ∃ reader ∈ expression.references, resolve reader = .error (.circularReference name) := by
  apply Classical.byContradiction
  intro noReader
  have different :
      ∀ reader ∈ expression.references, resolve reader ≠ .error (.circularReference name) :=
    fun reader inExpression readerCircular => noReader ⟨reader, inExpression, readerCircular⟩
  exact @reduce_congr _ (Outcome.ne_circularReference_respectsSteps name) resolve resolve expression
    different circular

/-- Only a name of the expression brings a circle into its evaluation. -/
theorem not_isCircular_reduce
    {resolve : String → Outcome Expression}
    {expression : Expression}
    (notCircular : ∀ name ∈ expression.references, ¬ (resolve name).IsCircular) :
    ¬ Outcome.IsCircular (reduce resolve expression) := by
  rintro ⟨name, circular⟩
  obtain ⟨reader, inExpression, readerCircular⟩ := exists_reference_of_circular circular
  exact notCircular reader inExpression ⟨name, readerCircular⟩

end Expression

end Spreadsheet
