import Spreadsheet.Proofs.Evaluation.ReferenceGraph

namespace Spreadsheet.Expression

/-!
# Contexts that agree

Evaluation looks at no names but those that can be reached from the expression. Two contexts that
agree on these give the same outcome, even if one of them has more bindings and with them a larger
limit. In particular a new binding changes nothing for an expression that does not reach its name.
-/

/-- A limit beyond the number of bindings gives the same outcome. -/
theorem reduce_same_evaluate
    {context : Context}
    {limit : Nat}
    (atLeast : context.size ≤ limit)
    (expression : Expression) :
    Outcome.Same (reduce (resolve context limit) expression) (evaluate context expression) := by
  induction limit, atLeast using Nat.le_induction with
  | base =>
      exact Outcome.Same.refl _
  | succ limit atLeast inductionHypothesis =>
      have settled := (isSettled_size context).mono context atLeast
      have oneMore :
          Outcome.Same (reduce (resolve context (limit + 1)) expression)
            (reduce (resolve context limit) expression) :=
        reduce_congr Outcome.same_respectsSteps fun name _ => settled name
      exact oneMore.trans inductionHypothesis

section Agreement

variable
  {first second : Context}
  {expression : Expression}

theorem resolve_eq_of_agree
    (agree : ∀ name, Reaches first expression name → first[name]? = second[name]?)
    (limit : Nat)
    {name : String}
    (isReached : Reaches first expression name) :
    resolve first limit name = resolve second limit name := by
  induction limit generalizing name with
  | zero =>
      unfold resolve
      rw [agree name isReached]
  | succ limit inductionHypothesis =>
      cases binds : first[name]? with
      | none =>
          have secondUnbound : second[name]? = none := by
            rw [← agree name isReached, binds]
          rw [resolve_of_unbound first binds, resolve_of_unbound second secondUnbound]
      | some bound =>
          have secondBinds : second[name]? = some bound := by
            rw [← agree name isReached, binds]
          rw [resolve_succ_of_bound first binds, resolve_succ_of_bound second secondBinds]
          apply reduce_congr Outcome.eq_respectsSteps
          intro next inBinding
          exact inductionHypothesis
            (isReached.reads ⟨bound, binds, mem_dependencies.mpr inBinding⟩)

/-- Contexts that agree on the names that an expression reaches give the same outcome. -/
theorem evaluate_same_of_agree
    (agree : ∀ name, Reaches first expression name → first[name]? = second[name]?) :
    Outcome.Same (evaluate first expression) (evaluate second expression) := by
  have limits := reduce_same_evaluate (Nat.le_max_left first.size second.size) expression
  have equal :
      reduce (resolve first (max first.size second.size)) expression =
        reduce (resolve second (max first.size second.size)) expression := by
    apply reduce_congr Outcome.eq_respectsSteps
    intro name inExpression
    exact resolve_eq_of_agree agree _ ⟨name, mem_dependencies.mpr inExpression, .refl⟩
  rw [equal] at limits
  exact limits.symm.trans
    (reduce_same_evaluate (Nat.le_max_right first.size second.size) expression)

end Agreement

/-- A name that an expression does not reach can be bound to anything. -/
theorem evaluate_insert_same
    {context : Context}
    {expression : Expression}
    {name : String}
    (notReached : ¬ Reaches context expression name)
    (binding : Expression) :
    Outcome.Same (evaluate context expression)
      (evaluate (context.insert name binding) expression) := by
  apply evaluate_same_of_agree
  intro other isReached
  have different : compare name other ≠ .eq := by
    intro same
    rw [Std.LawfulEqOrd.eq_of_compare same] at notReached
    exact notReached isReached
  rw [Std.ExtTreeMap.getElem?_insert, if_neg different]

/--
Contexts of any sizes that agree on the names that an expression reaches in the one give it the same
value or the same failure, and both or neither find a circle.
-/
theorem evaluate_sees_only_reached
    {first second : Context}
    {expression : Expression}
    (agree : ∀ name, Reaches first expression name → first[name]? = second[name]?) :
    (∀ value,
      evaluate first expression = .ok value ↔ evaluate second expression = .ok value) ∧
    (∀ text,
      evaluate first expression = .error (.notNumeric text) ↔
        evaluate second expression = .error (.notNumeric text)) ∧
    (evaluate first expression = .error .divisionByZero ↔
      evaluate second expression = .error .divisionByZero) ∧
    (evaluate first expression = .error .overflow ↔
      evaluate second expression = .error .overflow) ∧
    ((∃ name, evaluate first expression = .error (.circularReference name)) ↔
      ∃ name, evaluate second expression = .error (.circularReference name)) := by
  have same := evaluate_same_of_agree agree
  refine ⟨?_, ?_, ?_, ?_, same.isCircular_iff⟩
  · intro value
    exact same.eq_iff (Outcome.not_isCircular_ok value)
  · intro text
    exact same.eq_iff (by simp [Outcome.IsCircular])
  · exact same.eq_iff (by simp [Outcome.IsCircular])
  · exact same.eq_iff (by simp [Outcome.IsCircular])

/-- Two names that read each other. -/
def circle : Context :=
  Std.ExtTreeMap.ofList [("A", reference "B"), ("B", reference "A")]

/-- A third binding moves the limit, and with it the name that is found to be circular. -/
theorem circle_sees_only_reached :
    let larger := circle.insert "C" (constant 1)
    (∀ name, Reaches circle (reference "A") name → circle[name]? = larger[name]?) ∧
      evaluate circle (reference "A") = .error (.circularReference "A") ∧
      evaluate larger (reference "A") = .error (.circularReference "B") ∧
      ∀ value, evaluate larger (reference "A") ≠ .ok value := by
  intro larger
  have bindings :
      ∀ name binding, circle[name]? = some binding →
        (name = "A" ∧ binding = reference "B") ∨ (name = "B" ∧ binding = reference "A") := by
    intro name binding binds
    have listed := Std.ExtTreeMap.mem_toList_iff_getElem?_eq_some.mpr binds
    have isList : circle.toList = [("A", reference "B"), ("B", reference "A")] := by
      rfl
    simpa [isList] using listed
  have inside : ∀ name, Reaches circle (reference "A") name → name = "A" ∨ name = "B" := by
    intro name isReached
    rw [reaches_reference_iff] at isReached
    cases isReached with
    | refl =>
        exact Or.inl rfl
    | tail _ reads =>
        obtain ⟨binding, binds, inBinding⟩ := reads
        rcases bindings _ binding binds with ⟨_, rfl⟩ | ⟨_, rfl⟩
        · exact Or.inr (by simpa [mem_dependencies, references] using inBinding)
        · exact Or.inl (by simpa [mem_dependencies, references] using inBinding)
  have agree : ∀ name, Reaches circle (reference "A") name → circle[name]? = larger[name]? := by
    intro name isReached
    rcases inside name isReached with rfl | rfl <;> rfl
  have circular : evaluate circle (reference "A") = .error (.circularReference "A") := by
    rfl
  refine ⟨agree, circular, by rfl, ?_⟩
  intro value hasValue
  have smaller := ((evaluate_sees_only_reached agree).left value).mpr hasValue
  simp [circular] at smaller

end Spreadsheet.Expression
