import Spreadsheet.Proofs.Evaluation.ReferenceGraph

namespace Spreadsheet.Expression

/-!
# What evaluation returns

A value is a number, nothing, or a name that the expression reaches and to which nothing is bound.
An operation has a number for its value. So no value contains an operation, and a value evaluates to
itself, even in a context in which other names go round in a circle.
-/

/-- A value is a number, unless the whole expression is a name or empty. -/
theorem reduce_eq_ok_cases
    {resolve : String → Outcome Expression}
    {expression value : Expression}
    (reduces : reduce resolve expression = .ok value) :
    (∃ number, value = .constant number) ∨
      (expression = .empty ∧ value = .empty) ∨
      ∃ name, expression = .reference name ∧ resolve name = .ok value := by
  cases expression with
  | constant number =>
      exact Or.inl ⟨number, (Except.ok.inj reduces).symm⟩
  | reference name =>
      exact Or.inr (Or.inr ⟨name, rfl, reduces⟩)
  | empty =>
      exact Or.inr (Or.inl ⟨rfl, (Except.ok.inj reduces).symm⟩)
  | operation operator first rest =>
      rcases reduce_operation_cases resolve operator first rest with
        ⟨cause, _, fails⟩ | ⟨number, numbers, _, computes⟩
      · rw [fails] at reduces
        contradiction
      · rw [computes] at reduces
        cases folds : operator.fold number numbers with
        | error cause =>
            simp [folds, Except.map] at reduces
        | ok result =>
            rw [folds] at reduces
            exact Or.inl ⟨result, (Except.ok.inj reduces).symm⟩

/-- The value is a number, nothing, or an unbound name that the expression reaches. -/
def IsFinal
    (context : Context)
    (expression value : Expression) : Prop :=
  (∃ number, value = .constant number) ∨
    value = .empty ∨
    ∃ name, value = .reference name ∧ name ∉ context ∧ Reaches context expression name

section Final

variable
  {context : Context}
  {expression value : Expression}

/-- What is final for a binding is final for the name. -/
theorem IsFinal.of_binding
    {name : String}
    {bound : Expression}
    (binds : context[name]? = some bound)
    (isFinal : IsFinal context bound value) :
    IsFinal context (.reference name) value := by
  rcases isFinal with isNumber | isEmpty | ⟨other, isName, isUnbound, start, inBinding, path⟩
  · exact Or.inl isNumber
  · exact Or.inr (Or.inl isEmpty)
  · have isReached : Reaches context (.reference name) other :=
      reaches_reference_iff.mpr (path.head ⟨bound, binds, inBinding⟩)
    exact Or.inr (Or.inr ⟨other, isName, isUnbound, isReached⟩)

/-- Reducing an expression ends with what is final for it, if resolving names does. -/
theorem isFinal_of_reduce
    {resolve : String → Outcome Expression}
    (resolvesFinal :
      ∀ name, resolve name = .ok value → IsFinal context (.reference name) value)
    (reduces : reduce resolve expression = .ok value) :
    IsFinal context expression value := by
  rcases reduce_eq_ok_cases reduces with isNumber | ⟨_, isEmpty⟩ | ⟨name, rfl, resolves⟩
  · exact Or.inl isNumber
  · exact Or.inr (Or.inl isEmpty)
  · exact resolvesFinal name resolves

/-- Resolving a name ends with what is final for it, under every limit. -/
theorem isFinal_of_resolve
    (limit : Nat)
    (name : String)
    (resolves : resolve context limit name = .ok value) :
    IsFinal context (.reference name) value := by
  induction limit, name using inductionOnLimit context with
  | unbound limit name absent =>
      rw [resolve_of_unbound context absent] at resolves
      have isUnbound : name ∉ context := by
        rw [Std.ExtTreeMap.mem_iff_isSome_getElem?, absent]
        exact Bool.false_ne_true
      exact Or.inr (Or.inr
        ⟨name, (Except.ok.inj resolves).symm, isUnbound, reaches_reference_iff.mpr .refl⟩)
  | exhausted name bound binds =>
      rw [resolve_zero_of_bound context binds] at resolves
      contradiction
  | follow limit name bound binds inductionHypothesis =>
      rw [resolve_succ_of_bound context binds] at resolves
      exact (isFinal_of_reduce inductionHypothesis resolves).of_binding binds

/-- Evaluation ends with what is final for the expression. -/
theorem isFinal_of_evaluate
    (evaluates : evaluate context expression = .ok value) :
    IsFinal context expression value :=
  isFinal_of_reduce (isFinal_of_resolve context.size) evaluates

/-- No operation is left at the end. -/
theorem IsFinal.ne_operation
    (isFinal : IsFinal context expression value)
    (operator : Operator)
    (first : Expression)
    (rest : List Expression) :
    value ≠ .operation operator first rest := by
  rcases isFinal with ⟨number, rfl⟩ | rfl | ⟨name, rfl, _⟩ <;> simp

/-- There is nothing left to evaluate in a value. -/
theorem IsFinal.evaluate_eq
    (isFinal : IsFinal context expression value) :
    evaluate context value = .ok value := by
  rcases isFinal with ⟨number, rfl⟩ | rfl | ⟨name, rfl, isUnbound, _⟩
  · rfl
  · rfl
  · exact resolve_of_unbound context (Std.ExtTreeMap.getElem?_eq_none isUnbound) context.size

/-- An operation that can be computed is a number at the end. -/
theorem exists_constant_of_evaluate_operation
    {operator : Operator}
    {first : Expression}
    {rest : List Expression}
    (evaluates : evaluate context (.operation operator first rest) = .ok value) :
    ∃ number, value = .constant number := by
  rcases reduce_eq_ok_cases evaluates with isNumber | ⟨isEmpty, _⟩ | ⟨name, isName, _⟩
  · exact isNumber
  · contradiction
  · contradiction

end Final

/-- Evaluation computes operations or fails; it never returns one. -/
theorem evaluate_ne_operation
    (context : Context)
    (expression : Expression)
    (operator : Operator)
    (first : Expression)
    (rest : List Expression) :
    evaluate context expression ≠ .ok (.operation operator first rest) :=
  fun evaluates => (isFinal_of_evaluate evaluates).ne_operation operator first rest rfl

end Spreadsheet.Expression
