import Spreadsheet.Proofs.Formula.Flatten

namespace Spreadsheet

/-!
# Normal forms of expressions

Without parentheses only some trees can be written: an operand that is itself an operation must
bind more tightly than the operation around it. These are exactly the trees that the parser
returns, and exactly those that their texts give back.
-/

namespace Operator

/-- The place of an operator in scan order; a later one binds more tightly. -/
def rank (operator : Operator) : Nat :=
  scanOrder.idxOf operator

/-- Behind an operator stand exactly those of higher rank. -/
theorem rank_lt_rank_iff
    {looser tighter : List Operator}
    {operator : Operator}
    (whole : scanOrder = looser ++ operator :: tighter)
    {other : Operator} :
    operator.rank < other.rank ↔ other ∈ tighter := by
  have ascending : scanOrder.Pairwise fun first second => first.rank < second.rank := by
    decide
  have listed : other ∈ looser ++ operator :: tighter := by
    rw [← whole]
    exact mem_scanOrder other
  rw [whole, List.pairwise_append] at ascending
  obtain ⟨_, behind, before⟩ := ascending
  constructor
  · intro higher
    rcases List.mem_append.mp listed with inLooser | inBehind
    · have lower := before other inLooser operator (List.mem_cons_self ..)
      omega
    · rcases List.mem_cons.mp inBehind with same | inTighter
      · subst same
        omega
      · exact inTighter
  · intro inTighter
    exact List.rel_of_pairwise_cons behind inTighter

end Operator

namespace Expression

/-- The operator of an operation. -/
def operator? : Expression → Option Operator
  | .operation operator _ _ => some operator
  | _ => none

/--
An expression that can be written without parentheses: it has no empty part, its references are
names, its operations have two operands or more, and an operand that is an operation has an operator
that stands later in scan order.
-/
inductive IsGrouped : Expression → Prop where
  | constant (value : Int64) :
      IsGrouped (.constant value)
  | reference {name : String} :
      Formula.IsName name.toList →
      IsGrouped (.reference name)
  | operation {operator : Operator} {first : Expression} {rest : List Expression} :
      rest ≠ [] →
      (∀ operand ∈ first :: rest, IsGrouped operand) →
      (∀ operand ∈ first :: rest, ∀ inner,
        operand.operator? = some inner → operator.rank < inner.rank) →
      IsGrouped (.operation operator first rest)

/-- An expression in normal form is empty or can be written without parentheses. -/
def IsNormal (expression : Expression) : Prop :=
  expression = .empty ∨ IsGrouped expression

/-- An operator written in an operation is its own or one of an operand. -/
theorem mem_operators_flatten_operation
    {operator member : Operator}
    {first : Expression}
    {rest : List Expression}
    (inside : member ∈ (Expression.operation operator first rest).flatten.operators) :
    member = operator ∨
      ∃ operand ∈ first :: rest, member ∈ operand.flatten.operators := by
  rw [flatten_operation] at inside
  rcases FlatFormula.mem_operators_glueAll inside with same | ⟨part, isPart, inPart⟩
  · exact Or.inl same
  · rw [← List.map_cons] at isPart
    obtain ⟨operand, isOperand, rfl⟩ := List.mem_map.mp isPart
    exact Or.inr ⟨operand, isOperand, inPart⟩

/-- Below an operator all operators are of higher rank. -/
theorem IsGrouped.rank_lt_of_mem_operators
    {expression : Expression}
    (grouped : IsGrouped expression)
    {outer : Operator}
    (higher :
      ∀ inner, expression.operator? = some inner → outer.rank < inner.rank)
    {operator : Operator}
    (inside : operator ∈ expression.flatten.operators) :
    outer.rank < operator.rank := by
  induction grouped generalizing outer with
  | constant value =>
      contradiction
  | reference isName =>
      contradiction
  | @operation root first rest _ _ nested inductionHypothesis =>
      have rootHigher : outer.rank < root.rank := higher root rfl
      rcases mem_operators_flatten_operation inside with same | ⟨operand, isOperand, inOperand⟩
      · subst same
        exact rootHigher
      · exact rootHigher.trans
          (inductionHypothesis operand isOperand (nested operand isOperand) inOperand)

/-- A grouped expression can be spelled. -/
theorem IsGrouped.isSpellable
    {expression : Expression}
    (grouped : IsGrouped expression) :
    expression.IsSpellable := by
  induction grouped with
  | constant value =>
      exact .constant value
  | reference isName =>
      exact .reference isName
  | operation _ _ _ inductionHypothesis =>
      exact .operation inductionHypothesis

/-- All names in a grouped expression can be read. -/
theorem IsGrouped.isName_of_mem_references
    {expression : Expression}
    (grouped : IsGrouped expression)
    {name : String}
    (mentioned : name ∈ expression.references) :
    Formula.IsName name.toList := by
  induction grouped with
  | constant value =>
      contradiction
  | reference isName =>
      rw [List.mem_singleton.mp mentioned]
      exact isName
  | operation _ _ _ inductionHypothesis =>
      rw [references_operation] at mentioned
      obtain ⟨operand, isOperand, inOperand⟩ := List.mem_flatMap.mp mentioned
      exact inductionHypothesis operand isOperand inOperand

theorem root_mem_operators_flatten
    (operator : Operator)
    (first : Expression)
    {rest : List Expression}
    (several : rest ≠ []) :
    operator ∈ (Expression.operation operator first rest).flatten.operators := by
  cases rest with
  | nil =>
      exact absurd rfl several
  | cons second others =>
      simp [flatten, flattenOperands]

/-- The root of a grouped operation is the only one of its operators with so low a rank. -/
theorem IsGrouped.root_eq
    {root operator : Operator}
    {first : Expression}
    {rest : List Expression}
    (grouped : IsGrouped (.operation root first rest))
    (inside : operator ∈ (Expression.operation root first rest).flatten.operators)
    (lowest : operator.rank ≤ root.rank) :
    operator = root := by
  cases grouped with
  | operation _ operands nested =>
      rcases mem_operators_flatten_operation inside with same | ⟨operand, isOperand, inOperand⟩
      · exact same
      · have higher :=
          (operands operand isOperand).rank_lt_of_mem_operators
            (nested operand isOperand) inOperand
        omega

/-- One step of grouping finds the root and the operands of a grouped operation. -/
theorem IsGrouped.group_flatten_operation
    {operator : Operator}
    {first : Expression}
    {rest : List Expression}
    (grouped : IsGrouped (.operation operator first rest))
    {tighter : List Operator}
    (regrouped :
      ∀ operand ∈ first :: rest, operand.flatten.group tighter = operand) :
    (Expression.operation operator first rest).flatten.group (operator :: tighter) =
      .operation operator first rest := by
  cases grouped with
  | operation several operands nested =>
      have absent :
          ∀ part ∈ first.flatten :: rest.map flatten, operator ∉ part.operators := by
        rw [← List.map_cons, List.forall_mem_map]
        intro operand isOperand inside
        exact Nat.lt_irrefl _
          ((operands operand isOperand).rank_lt_of_mem_operators
            (nested operand isOperand) inside)
      have restRegrouped :
          (rest.map flatten).map (FlatFormula.group tighter) = rest := by
        rw [List.map_map]
        refine (List.map_congr_left fun operand member => ?_).trans (List.map_id rest)
        exact regrouped operand (List.mem_cons_of_mem _ member)
      rw [FlatFormula.group_cons_of_mem
          (root_mem_operators_flatten operator first several),
        flatten_operation, FlatFormula.cut_glueAll absent, restRegrouped,
        regrouped first (List.mem_cons_self ..)]

/-- Grouping finds the root of a grouped expression if it is the operator that is looked for. -/
theorem IsGrouped.group_flatten_of_present
    {expression : Expression}
    (grouped : IsGrouped expression)
    {operator : Operator}
    {looser tighter : List Operator}
    (whole : Operator.scanOrder = looser ++ operator :: tighter)
    (inOrder : ∀ inner ∈ expression.flatten.operators, inner ∈ operator :: tighter)
    (present : operator ∈ expression.flatten.operators)
    (regrouped :
      ∀ operand, IsGrouped operand →
        (∀ inner ∈ operand.flatten.operators, inner ∈ tighter) →
          operand.flatten.group tighter = operand) :
    expression.flatten.group (operator :: tighter) = expression := by
  cases grouped with
  | constant value =>
      contradiction
  | reference isName =>
      contradiction
  | @operation root first rest several operands nested =>
      have isGroup : IsGrouped (.operation root first rest) := .operation several operands nested
      -- The root has the lowest rank of its tree, so it is the operator that is looked for.
      have lowest : operator.rank ≤ root.rank := by
        rcases List.mem_cons.mp
            (inOrder root (root_mem_operators_flatten root first several)) with
            same | rootTighter
        · subst same
          exact Nat.le_refl _
        · exact ((Operator.rank_lt_rank_iff whole).mpr rootTighter).le
      have isRoot : operator = root := isGroup.root_eq present lowest
      subst isRoot
      apply isGroup.group_flatten_operation
      intro operand isOperand
      apply regrouped operand (operands operand isOperand)
      intro inner inside
      exact (Operator.rank_lt_rank_iff whole).mp
        ((operands operand isOperand).rank_lt_of_mem_operators
          (nested operand isOperand) inside)

/-- Grouping the leaves of a grouped expression gives the expression again. -/
theorem IsGrouped.group_flatten
    {expression : Expression}
    (grouped : IsGrouped expression)
    {looser order : List Operator}
    (whole : Operator.scanOrder = looser ++ order)
    (inOrder : ∀ operator ∈ expression.flatten.operators, operator ∈ order) :
    expression.flatten.group order = expression := by
  induction order generalizing looser expression with
  | nil =>
      cases grouped with
      | constant value =>
          rfl
      | reference isName =>
          rfl
      | @operation operator first rest several _ _ =>
          have root := root_mem_operators_flatten operator first several
          exact absurd (inOrder operator root) List.not_mem_nil
  | cons operator tighter inductionHypothesis =>
      have next : Operator.scanOrder = (looser ++ [operator]) ++ tighter := by
        simpa using whole
      by_cases present : operator ∈ expression.flatten.operators
      · apply grouped.group_flatten_of_present whole inOrder present
        intro operand operandGrouped operandInOrder
        exact inductionHypothesis operandGrouped next operandInOrder
      · rw [FlatFormula.group_cons_of_not_mem present]
        exact inductionHypothesis grouped next
          (FlatFormula.forall_mem_tighter inOrder present)

theorem isGrouped_of_isLeaf
    {expression : Expression}
    (leaf : Formula.IsLeaf expression) :
    IsGrouped expression ∧ expression.operator? = none := by
  cases expression with
  | constant value =>
      exact ⟨.constant value, rfl⟩
  | reference name =>
      exact ⟨.reference (Formula.isLeaf_reference_iff.mp leaf), rfl⟩
  | empty =>
      cases leaf
  | operation operator first rest =>
      cases leaf

/-- If its parts make grouped expressions, then so does a formula that is cut at an operator. -/
theorem isGrouped_group_of_present
    {operator : Operator}
    {looser tighter : List Operator}
    (whole : Operator.scanOrder = looser ++ operator :: tighter)
    {formula : FlatFormula Expression}
    (present : operator ∈ formula.operators)
    (partsGrouped :
      ∀ part ∈ formula.parts operator,
        IsGrouped (part.group tighter) ∧
          ∀ root, (part.group tighter).operator? = some root → root ∈ tighter) :
    IsGrouped (formula.group (operator :: tighter)) ∧
      ∀ root, (formula.group (operator :: tighter)).operator? = some root →
        root ∈ operator :: tighter := by
  have several : (formula.cut operator).2.map (FlatFormula.group tighter) ≠ [] := by
    intro none
    exact FlatFormula.cut_snd_eq_nil_iff.mp (List.map_eq_nil_iff.mp none) present
  rw [FlatFormula.group_cons_of_mem present]
  refine ⟨.operation several ?_ ?_, ?_⟩
  · rw [← List.map_cons, List.forall_mem_map]
    exact fun part isPart => (partsGrouped part isPart).1
  · rw [← List.map_cons, List.forall_mem_map]
    intro part isPart inner isRoot
    exact (Operator.rank_lt_rank_iff whole).mpr
      ((partsGrouped part isPart).2 inner isRoot)
  · intro root isRoot
    rw [← Option.some.inj isRoot]
    exact List.mem_cons_self ..

/-- Grouping constants and names gives a grouped expression, with a root from the order. -/
theorem isGrouped_group
    {looser order : List Operator}
    (whole : Operator.scanOrder = looser ++ order)
    {formula : FlatFormula Expression}
    (leaves : ∀ leaf ∈ formula.operands, Formula.IsLeaf leaf)
    (inOrder : ∀ operator ∈ formula.operators, operator ∈ order) :
    IsGrouped (formula.group order) ∧
      ∀ root, (formula.group order).operator? = some root → root ∈ order := by
  induction order generalizing looser formula with
  | nil =>
      have lastLeaf : Formula.IsLeaf formula.last :=
        leaves _ formula.last_mem_operands
      obtain ⟨grouped, noOperator⟩ := isGrouped_of_isLeaf lastLeaf
      refine ⟨grouped, fun root isRoot => ?_⟩
      simp [FlatFormula.group, noOperator] at isRoot
  | cons operator tighter inductionHypothesis =>
      have next : Operator.scanOrder = (looser ++ [operator]) ++ tighter := by
        simpa using whole
      by_cases present : operator ∈ formula.operators
      · apply isGrouped_group_of_present whole present
        intro part isPart
        apply inductionHypothesis next
        · intro leaf isLeaf
          exact leaves leaf (FlatFormula.mem_operands_of_mem_parts isPart isLeaf)
        · exact FlatFormula.forall_mem_tighter_of_mem_parts inOrder isPart
      · rw [FlatFormula.group_cons_of_not_mem present]
        have laterOperators := FlatFormula.forall_mem_tighter inOrder present
        obtain ⟨grouped, roots⟩ := inductionHypothesis next leaves laterOperators
        exact ⟨grouped, fun root isRoot => List.mem_cons_of_mem _ (roots root isRoot)⟩

end Expression

namespace Formula

open Expression

/-- Whatever the parser returns is in normal form. -/
theorem isNormal_of_parse
    {text : String}
    {expression : Expression}
    (parsed : parse text = .ok expression) :
    expression.IsNormal := by
  rcases parse_eq_ok_iff.mp parsed with ⟨_, isEmpty⟩ | ⟨_, atoms, related, isGroup⟩
  · exact Or.inl isEmpty
  · obtain ⟨readable, areAtoms⟩ := related_isAtom_iff.mp related
    have leaves : ∀ leaf ∈ atoms.operands, IsLeaf leaf := by
      rw [areAtoms, FlatFormula.operands_map, List.forall_mem_map]
      exact fun operand member => (IsAtom.of_exists (readable operand member)).isLeaf
    rw [isGroup]
    exact Or.inr
      (isGrouped_group (List.nil_append Operator.scanOrder).symm leaves
        fun operator _ => operator.mem_scanOrder).1

/-- Whatever name a formula mentions can be read. -/
theorem isName_of_parse
    {text name : String}
    {expression : Expression}
    (parsed : parse text = .ok expression)
    (mentioned : name ∈ expression.references) :
    IsName name.toList := by
  rcases isNormal_of_parse parsed with rfl | grouped
  · contradiction
  · exact grouped.isName_of_mem_references mentioned

/-- An expression in normal form is read back from its text. -/
theorem parse_render_of_isNormal
    {expression : Expression}
    (normal : expression.IsNormal) :
    parse expression.render = .ok expression := by
  rcases normal with rfl | grouped
  · exact parse_eq_ok_iff.mpr (Or.inl ⟨rfl, rfl⟩)
  · rw [parse_render grouped.isSpellable]
    exact congrArg Except.ok
      (grouped.group_flatten (List.nil_append Operator.scanOrder).symm
        fun operator _ => operator.mem_scanOrder)

/--
The normal forms are the expressions that their texts give back, and all that the parser returns:
parsing undoes rendering on the results of the parser, and on nothing else.
-/
theorem parse_render_iff_isNormal :
    (∀ expression : Expression,
      parse expression.render = .ok expression ↔ expression.IsNormal) ∧
    (∀ (text : String) (expression : Expression),
      parse text = .ok expression →
        expression.IsNormal ∧ parse expression.render = .ok expression) := by
  refine ⟨fun expression => ⟨isNormal_of_parse, parse_render_of_isNormal⟩, ?_⟩
  intro text expression parsed
  exact ⟨isNormal_of_parse parsed, parse_render_of_isNormal (isNormal_of_parse parsed)⟩

theorem parse_render_sum_of_product :
    parse "1 + 2 * -3" =
        .ok (.operation .plus (.constant 1)
          [.operation .times (.constant 2) [.constant (-3)]]) ∧
      IsNormal (.operation .plus (.constant 1)
        [.operation .times (.constant 2) [.constant (-3)]]) := by
  have product : IsGrouped (.operation .times (.constant 2) [.constant (-3)]) := by
    apply IsGrouped.operation
    · simp
    · simp [IsGrouped.constant]
    · simp [operator?]
  have sum :
      IsGrouped
        (.operation .plus (.constant 1)
          [.operation .times (.constant 2) [.constant (-3)]]) := by
    apply IsGrouped.operation
    · simp
    · simp [IsGrouped.constant, product]
    · simp [operator?]
      decide
  have parsed := (parse_render_iff_isNormal.left _).mpr (Or.inr sum)
  exact ⟨parsed, (parse_render_iff_isNormal.right _ _ parsed).left⟩

end Formula

end Spreadsheet
