import Spreadsheet.Proofs.Evaluation.ReferenceGraph

namespace Spreadsheet.Expression

/-!
# Writing bindings in place of names

A bound name can be replaced by its binding wherever it occurs in an expression. The bindings that
the name led to are then followed from one step nearer to the expression, which moves the place at
which a circle is noticed but never decides whether there is one. Everything else stays: the value,
the operand that fails first, and what the failure says.
-/

mutual

/-- The expression with other expressions in place of its names. -/
def substitute (meaning : String → Expression) : Expression → Expression
  | .constant value => .constant value
  | .reference name => meaning name
  | .empty => .empty
  | .operation operator first rest =>
    .operation operator (first.substitute meaning) (substituteInOperands meaning rest)

/-- The operands with other expressions in place of their names. -/
def substituteInOperands (meaning : String → Expression) : List Expression → List Expression
  | [] => []
  | operand :: later => operand.substitute meaning :: substituteInOperands meaning later

end

/-- The expression with a binding in place of every occurrence of its name. -/
def inline
    (expression : Expression)
    (name : String)
    (binding : Expression) :
    Expression :=
  expression.substitute (Function.update reference name binding)

section Substitution

variable
  (resolve : String → Outcome Expression)
  (meaning : String → Expression)

theorem reduceOperands_substituteInOperands
    {operands : List Expression}
    (reduces :
      ∀ operand ∈ operands,
        reduce resolve (operand.substitute meaning) =
          reduce (fun name => reduce resolve (meaning name)) operand) :
    reduceOperands resolve (substituteInOperands meaning operands) =
      reduceOperands (fun name => reduce resolve (meaning name)) operands := by
  induction operands with
  | nil =>
      rfl
  | cons operand later inductionHypothesis =>
      have laterReduces := inductionHypothesis fun other member =>
        reduces other (List.mem_cons_of_mem _ member)
      rw [substituteInOperands, reduceOperands_cons, reduceOperands_cons, laterReduces,
        reduces operand (List.mem_cons_self ..)]

/-- An expression in place of a name counts as what the expression reduces to. -/
theorem reduce_substitute
    (expression : Expression) :
    reduce resolve (expression.substitute meaning) =
      reduce (fun name => reduce resolve (meaning name)) expression := by
  induction expression using inductionOnOperands with
  | constant value =>
      rfl
  | reference name =>
      rfl
  | empty =>
      rfl
  | operation operator first rest inductionHypothesis =>
      have restReduces :=
        reduceOperands_substituteInOperands resolve meaning fun operand member =>
          inductionHypothesis operand (List.mem_cons_of_mem _ member)
      rw [substitute, reduce_operation, reduce_operation, restReduces,
        inductionHypothesis first (List.mem_cons_self ..)]

end Substitution

theorem reduce_update_reference
    (resolve : String → Outcome Expression)
    (name : String)
    (binding : Expression) :
    (fun other => reduce resolve (Function.update reference name binding other)) =
      Function.update resolve name (reduce resolve binding) :=
  Function.comp_update (reduce resolve) reference name binding

/--
With the binding of a name in place of the name, an expression has the same value or fails for the
same reason, or it is circular as it was before.
-/
theorem inlining_keeps_outcome
    {context : Context}
    {name : String}
    {binding : Expression}
    (binds : context[name]? = some binding)
    (expression : Expression) :
    Outcome.Same (evaluate context (expression.inline name binding))
      (evaluate context expression) := by
  have inlined :
      evaluate context (expression.inline name binding) =
        reduce
          (Function.update (resolve context context.size) name (evaluate context binding))
          expression := by
    rw [evaluate, inline, reduce_substitute, reduce_update_reference, evaluate]
  rw [inlined]
  exact (evaluate_same_reduce_update binds expression).symm

/-- The chain from the name takes all bindings, and its first link is put in place of it. -/
theorem sharedChain_inlining_keeps_outcome :
    let binding := operation .plus (reference "B") [reference "B"]
    let square := operation .times (reference "A") [reference "A"]
    sharedChain["A"]? = some binding ∧
      square.inline "A" binding = .operation .times binding [binding] ∧
      evaluate sharedChain square = .ok (.constant 4) ∧
      Outcome.Same (evaluate sharedChain (.operation .times binding [binding]))
        (evaluate sharedChain square) := by
  intro binding square
  have binds : sharedChain["A"]? = some binding := by
    rfl
  have inlined : square.inline "A" binding = .operation .times binding [binding] := by
    rfl
  refine ⟨binds, inlined, by rfl, ?_⟩
  rw [← inlined]
  exact inlining_keeps_outcome binds square

end Spreadsheet.Expression
