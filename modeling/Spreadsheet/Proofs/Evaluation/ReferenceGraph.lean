import Mathlib.Data.Set.Finite.Basic
import Mathlib.Logic.Relation
import Mathlib.Order.WellFounded
import Spreadsheet.Proofs.Evaluation.BigStep

namespace Spreadsheet.Expression

/-!
# The graph of references

A bound name reads the names of its binding. Where no circle of names that read each other can be
reached from an expression, its evaluation ends, however long the chains are and however often
they meet. Where evaluation gives a value, every name that can be reached has been followed to its
end, so none of them is on a circle.
-/

/-- The reader is bound to an expression that depends on the name. -/
def Reads
    (context : Context)
    (reader name : String) : Prop :=
  ∃ binding, context[reader]? = some binding ∧ name ∈ binding.dependencies

/-- The name depends on itself. -/
def IsOnCycle
    (context : Context)
    (name : String) : Prop :=
  Relation.TransGen (Reads context) name name

/-- The name can be reached from the names of the expression. -/
def Reaches
    (context : Context)
    (expression : Expression)
    (name : String) : Prop :=
  ∃ start ∈ expression.dependencies, Relation.ReflTransGen (Reads context) start name

/-! ## Without circles evaluation ends -/

section Acyclic

variable {context : Context} {expression : Expression}

theorem Reaches.reads
    {reader name : String}
    (reaches : Reaches context expression reader)
    (reads : Reads context reader name) :
    Reaches context expression name := by
  obtain ⟨start, inExpression, path⟩ := reaches
  exact ⟨start, inExpression, path.tail reads⟩

/-- The bound names that can be reached from the expression. -/
abbrev ReachedBinding
    (context : Context)
    (expression : Expression) : Type :=
  { name : String // name ∈ context ∧ Reaches context expression name }

instance : Finite (ReachedBinding context expression) := by
  apply Set.Finite.subset context.keys.toFinset.finite_toSet
  rintro name ⟨isBound, _⟩
  simpa using isBound

/-- Without circles, going from a name to a name that it reads ends. -/
theorem reads_wellFounded
    (acyclic : ∀ name, Reaches context expression name → ¬ IsOnCycle context name) :
    WellFounded fun name reader : ReachedBinding context expression =>
      Relation.TransGen (Reads context) reader.val name.val := by
  have irreflexive :
      Std.Irrefl fun name reader : ReachedBinding context expression =>
        Relation.TransGen (Reads context) reader.val name.val :=
    ⟨fun name => acyclic name.val name.property.right⟩
  have transitive :
      IsTrans _ fun name reader : ReachedBinding context expression =>
        Relation.TransGen (Reads context) reader.val name.val :=
    ⟨fun _ _ _ firstPath secondPath => secondPath.trans firstPath⟩
  exact Finite.wellFounded_of_trans_of_irrefl _

/-- A name without a binding is no circle. -/
theorem not_isCircular_of_unbound
    {name : String}
    (isUnbound : name ∉ context)
    (limit : Nat) :
    ¬ Outcome.IsCircular (resolve context limit name) := by
  rw [resolve_of_unbound context (Std.ExtTreeMap.getElem?_eq_none isUnbound)]
  exact Outcome.not_isCircular_ok _

/-- Where no name that is reached lies on a cycle, none of them is circular. -/
theorem not_isCircular_of_reachedBinding
    (acyclic : ∀ name, Reaches context expression name → ¬ IsOnCycle context name)
    (name : ReachedBinding context expression) :
    ¬ Outcome.IsCircular (resolve context context.size name.val) := by
  induction name using (reads_wellFounded acyclic).induction with
  | _ reader inductionHypothesis =>
      have binds := Std.ExtTreeMap.getElem?_eq_some_getElem reader.property.left
      apply mt (evaluate_bound_same binds).isCircular_iff.mpr
      apply not_isCircular_reduce
      intro name inBinding
      by_cases isBound : name ∈ context
      · have reads : Reads context reader.val name :=
          ⟨_, binds, mem_dependencies.mpr inBinding⟩
        have isReached := reader.property.right.reads reads
        exact inductionHypothesis ⟨name, isBound, isReached⟩ (.single reads)
      · exact not_isCircular_of_unbound isBound context.size

/-- Evaluation never complains about a circle where none can be reached. -/
theorem not_isCircular_evaluate
    (acyclic : ∀ name, Reaches context expression name → ¬ IsOnCycle context name) :
    ¬ Outcome.IsCircular (evaluate context expression) := by
  apply not_isCircular_reduce
  intro name inExpression
  by_cases isBound : name ∈ context
  · have isReached : Reaches context expression name :=
      ⟨name, mem_dependencies.mpr inExpression, .refl⟩
    exact not_isCircular_of_reachedBinding acyclic ⟨name, isBound, isReached⟩
  · exact not_isCircular_of_unbound isBound context.size

end Acyclic

/-! ## A value means that there are no circles -/

section Evaluated

variable {context : Context}

theorem not_reaches_constant
    {value : Int64}
    {name : String} :
    ¬ Reaches context (.constant value) name := by
  simp [Reaches, mem_dependencies, references]

/-- A name reaches what a chain of readers leads to, itself included. -/
theorem reaches_reference_iff
    {start name : String} :
    Reaches context (.reference start) name ↔
      Relation.ReflTransGen (Reads context) start name := by
  simp [Reaches, mem_dependencies, references]

/-- An operation reaches what one of its operands reaches. -/
theorem reaches_operation_iff
    {operator : Operator}
    {first : Expression}
    {rest : List Expression}
    {name : String} :
    Reaches context (.operation operator first rest) name ↔
      ∃ operand ∈ first :: rest, Reaches context operand name := by
  simp only [Reaches, mem_dependencies, references_operation, List.mem_flatMap]
  constructor
  · rintro ⟨start, ⟨operand, member, inOperand⟩, path⟩
    exact ⟨operand, member, start, inOperand, path⟩
  · rintro ⟨operand, member, start, inOperand, path⟩
    exact ⟨start, ⟨operand, member, inOperand⟩, path⟩

/-- A path that leaves a bound name goes through its binding. -/
theorem reaches_binding_of_transGen
    {reader name : String}
    {binding : Expression}
    (binds : context[reader]? = some binding)
    (path : Relation.TransGen (Reads context) reader name) :
    Reaches context binding name := by
  obtain ⟨next, ⟨otherBinding, otherBinds, inBinding⟩, later⟩ :=
    Relation.TransGen.head'_iff.mp path
  rw [binds] at otherBinds
  obtain rfl := Option.some.inj otherBinds
  exact ⟨next, inBinding, later⟩

/-- No chain of readers begins at a name without a binding. -/
theorem not_transGen_of_unbound
    {reader name : String}
    (absent : context[reader]? = none) :
    ¬ Relation.TransGen (Reads context) reader name := by
  intro path
  obtain ⟨next, ⟨binding, binds, _⟩, _⟩ := Relation.TransGen.head'_iff.mp path
  simp [absent] at binds

mutual

/-- The rules derive no value from names that go round in a circle. -/
theorem not_isOnCycle_of_evaluates
    {expression : Expression}
    {outcome : Outcome Expression} :
    Evaluates context expression outcome →
      (∃ value, outcome = .ok value) →
        ∀ name, Reaches context expression name → ¬ IsOnCycle context name
  | .constant _, _, name, isReached | .empty, _, name, isReached => by
      simp [Reaches, mem_dependencies, references] at isReached
  | .unbound absent, _, name, isReached => by
      rw [reaches_reference_iff] at isReached
      rcases Relation.reflTransGen_iff_eq_or_transGen.mp isReached with rfl | path
      · exact not_transGen_of_unbound absent
      · exact absurd path (not_transGen_of_unbound absent)
  | .bound binds evaluates, isOk, name, isReached => by
      have bindingClear := not_isOnCycle_of_evaluates evaluates isOk
      rw [reaches_reference_iff] at isReached
      rcases Relation.reflTransGen_iff_eq_or_transGen.mp isReached with rfl | path
      -- A circle through the name itself would also be reached from its binding.
      · intro circle
        exact bindingClear name (reaches_binding_of_transGen binds circle) circle
      · exact bindingClear name (reaches_binding_of_transGen binds path)
  | .operation operands, _, name, isReached => by
      obtain ⟨operand, member, inOperand⟩ := reaches_operation_iff.mp isReached
      exact not_isOnCycle_of_evaluatesOperands operands ⟨_, rfl⟩ operand member name inOperand
  | .operandFails _, isOk, _, _ => by
      simp at isOk

theorem not_isOnCycle_of_evaluatesOperands
    {operands : List Expression}
    {outcome : Outcome (List Int64)} :
    EvaluatesOperands context operands outcome →
      (∃ values, outcome = .ok values) →
        ∀ operand ∈ operands,
          ∀ name, Reaches context operand name → ¬ IsOnCycle context name
  | .nil, _, operand, member => by
      simp at member
  | .cons evaluates later, isOk, operand, member => by
      have headClear := not_isOnCycle_of_evaluates evaluates ⟨_, rfl⟩
      have laterClear :=
        not_isOnCycle_of_evaluatesOperands later (Outcome.exists_ok_of_map isOk)
      rcases List.mem_cons.mp member with isHead | inLater
      · subst isHead
        exact headClear
      · exact laterClear operand inLater
  | .notNumeric _ _, isOk, _, _ => by
      simp at isOk
  | .fails _, isOk, _, _ => by
      simp at isOk

end

end Evaluated

/--
An expression from which no circle can be reached is never called circular, and an expression that
has a value reaches no circle.
-/
theorem evaluate_reaches_no_cycle
    (context : Context)
    (expression : Expression) :
    ((∀ name, Reaches context expression name → ¬ IsOnCycle context name) →
      ∀ name, evaluate context expression ≠ .error (.circularReference name)) ∧
    (∀ value, evaluate context expression = .ok value →
      ∀ name, Reaches context expression name → ¬ IsOnCycle context name) := by
  constructor
  · intro acyclic name isCircular
    exact not_isCircular_evaluate acyclic ⟨name, isCircular⟩
  · intro value hasValue
    have evaluates : Evaluates context expression (.ok value) :=
      (evaluate_eq_iff_evaluates (Outcome.not_isCircular_ok value)).mp hasValue
    exact not_isOnCycle_of_evaluates evaluates ⟨value, rfl⟩

/-- A name that is read twice, at the head of a chain through every binding. -/
def sharedChain : Context :=
  Std.ExtTreeMap.ofList
    [("A", operation .plus (reference "B") [reference "B"]),
      ("B", reference "C"),
      ("C", constant 1)]

theorem sharedChain_reaches_no_cycle :
    (∀ name, Reaches sharedChain (.reference "A") name → ¬ IsOnCycle sharedChain name) ∧
      ∀ name, evaluate sharedChain (.reference "A") ≠ .error (.circularReference name) := by
  have evaluated : evaluate sharedChain (.reference "A") = .ok (.constant 2) := by
    rfl
  have acyclic :=
    (evaluate_reaches_no_cycle sharedChain (.reference "A")).right (.constant 2) evaluated
  exact ⟨acyclic, (evaluate_reaches_no_cycle sharedChain (.reference "A")).left acyclic⟩

end Spreadsheet.Expression
