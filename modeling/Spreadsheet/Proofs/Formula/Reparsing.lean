import Spreadsheet.Proofs.Formula.Flatten

namespace Spreadsheet

/-!
# Reading a text again

A text without parentheses does not show how operations are nested, so reading it back may give
another tree. What it does show is kept: the new tree has the same leaves and operators in the same
order, and so the same text and the same names.
-/

/-- Grouping a flat formula moves no operand and no operator. -/
theorem FlatFormula.flatten_group
    {order : List Operator}
    {formula : FlatFormula Expression}
    (leaves : ∀ leaf ∈ formula.operands, leaf.flatten = .single leaf)
    (inOrder : ∀ operator ∈ formula.operators, operator ∈ order) :
    (formula.group order).flatten = formula := by
  induction order generalizing formula with
  | nil =>
      have lastLeaf := leaves formula.last formula.last_mem_operands
      exact lastLeaf.trans (eq_single_of_forall_mem_nil inOrder).symm
  | cons operator tighter inductionHypothesis =>
      by_cases present : operator ∈ formula.operators
      · have parts :
            ∀ part ∈ formula.parts operator, (part.group tighter).flatten = part := by
          intro part isPart
          exact inductionHypothesis
            (fun leaf isLeaf => leaves leaf (mem_operands_of_mem_parts isPart isLeaf))
            (forall_mem_tighter_of_mem_parts inOrder isPart)
        have first := parts _ (List.mem_cons_self ..)
        have others :
            ((formula.cut operator).2.map (group tighter)).map Expression.flatten =
              (formula.cut operator).2 := by
          rw [List.map_map]
          refine (List.map_congr_left fun part member => ?_).trans (List.map_id _)
          exact parts part (List.mem_cons_of_mem _ member)
        rw [group_cons_of_mem present, Expression.flatten_operation, first, others, glueAll_cut]
      · rw [group_cons_of_not_mem present]
        exact inductionHypothesis leaves (forall_mem_tighter inOrder present)

namespace Expression

/-- The names of an expression are those of its leaves, in the same order. -/
theorem references_eq_flatMap_flatten
    (expression : Expression) :
    expression.references = expression.flatten.operands.flatMap references := by
  induction expression using inductionOnOperands with
  | constant value =>
      rfl
  | reference name =>
      rfl
  | empty =>
      rfl
  | operation operator first rest inductionHypothesis =>
      rw [references_operation, operands_flatten_operation, List.flatMap_assoc]
      exact List.flatMap_congr inductionHypothesis

/-- Expressions with the same leaves and operators have the same text. -/
theorem render_eq_of_flatten_eq
    {first second : Expression}
    (same : first.flatten = second.flatten) :
    first.render = second.render := by
  rw [render, render, ← Formula.spell_flatten first, ← Formula.spell_flatten second, same]

/-- Expressions with the same leaves and operators read the same names. -/
theorem dependencies_eq_of_flatten_eq
    {first second : Expression}
    (same : first.flatten = second.flatten) :
    first.dependencies = second.dependencies := by
  rw [dependencies, dependencies, references_eq_flatMap_flatten first,
    references_eq_flatMap_flatten second, same]

end Expression

namespace Formula

theorem flatten_of_isLeaf
    {leaf : Expression}
    (isLeaf : IsLeaf leaf) :
    leaf.flatten = .single leaf := by
  cases leaf with
  | constant value =>
      rfl
  | reference name =>
      rfl
  | empty =>
      rfl
  | operation operator first rest =>
      cases isLeaf

/--
The text of an expression can be read again, however its operations are nested. The tree that is
read has the same leaves and operators in the same order, the same text, and the same names.
-/
theorem reparsing_keeps_text_and_names
    {expression : Expression}
    (spellable : expression.IsSpellable) :
    ∃ reread,
      parse expression.render = .ok reread ∧
        reread.flatten = expression.flatten ∧
        reread.render = expression.render ∧
        reread.dependencies = expression.dependencies := by
  have leaves : ∀ leaf ∈ expression.flatten.operands, leaf.flatten = .single leaf :=
    fun leaf member => flatten_of_isLeaf (isLeaf_of_mem_operands spellable member)
  have same :
      (expression.flatten.group Operator.scanOrder).flatten = expression.flatten :=
    FlatFormula.flatten_group leaves fun operator _ => operator.mem_scanOrder
  exact ⟨_, parse_render spellable, same, Expression.render_eq_of_flatten_eq same,
    Expression.dependencies_eq_of_flatten_eq same⟩

/-- A product of a sum and of a difference with a single operand, which no text can show. -/
def productOfSum : Expression :=
  .operation .times
    (.operation .plus (.constant 1) [.reference "A0"])
    [.operation .minus (.constant (-3)) []]

theorem productOfSum_is_reread_as_sum :
    productOfSum.IsSpellable ∧
      productOfSum.render = "1 + A0 * -3" ∧
      ∃ reread,
        parse "1 + A0 * -3" = .ok reread ∧
          reread.render = "1 + A0 * -3" ∧
          reread.dependencies = productOfSum.dependencies ∧
          reread ≠ productOfSum := by
  have isName : IsName "A0".toList :=
    isName_of_isAlphanum (by decide) (by decide) (by decide)
  have sum : Expression.IsSpellable (.operation .plus (.constant 1) [.reference "A0"]) := by
    apply Expression.IsSpellable.operation
    simp [Expression.IsSpellable.constant, Expression.IsSpellable.reference isName]
  have difference : Expression.IsSpellable (.operation .minus (.constant (-3)) []) := by
    apply Expression.IsSpellable.operation
    simp [Expression.IsSpellable.constant]
  have spellable : productOfSum.IsSpellable := by
    apply Expression.IsSpellable.operation
    simp [sum, difference]
  have text : productOfSum.render = "1 + A0 * -3" := by
    decide
  obtain ⟨reread, parsed, _, sameText, sameNames⟩ := reparsing_keeps_text_and_names spellable
  have regrouped : productOfSum.flatten.group Operator.scanOrder ≠ productOfSum := by
    decide
  have isReread := Except.ok.inj ((parse_render spellable).symm.trans parsed)
  rw [text] at parsed sameText
  exact ⟨spellable, text, reread, parsed, sameText, sameNames, isReread ▸ regrouped⟩

end Formula

end Spreadsheet
