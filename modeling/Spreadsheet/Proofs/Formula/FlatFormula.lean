import Spreadsheet.Expression
import Mathlib.Data.List.Basic

namespace Spreadsheet

/-!
# Flat formulas and their grouping

Without parentheses a formula is flat: operands with operators between them. The tree of a flat
formula is found by cutting it at all occurrences of the first operator, in scan order, that it
contains, and each part in the same way at the operators that come later in the order.
-/

/-- Operands with operators between them; each operand but the last is kept with the operator after it. -/
structure FlatFormula (α : Type) where
  earlier : List (α × Operator)
  last : α
  deriving Repr, DecidableEq

namespace FlatFormula

variable {α β : Type}

/-- The operands from left to right. -/
def operands (formula : FlatFormula α) : List α :=
  formula.earlier.map Prod.fst ++ [formula.last]

/-- The operators from left to right. -/
def operators (formula : FlatFormula α) : List Operator :=
  formula.earlier.map Prod.snd

/-- The formula of one operand. -/
def single (operand : α) : FlatFormula α :=
  ⟨[], operand⟩

/-- The formula with one more operand and operator in front. -/
def cons
    (operand : α)
    (operator : Operator)
    (formula : FlatFormula α) : FlatFormula α :=
  ⟨(operand, operator) :: formula.earlier, formula.last⟩

/-- Two formulas with an operator between them. -/
def glue
    (operator : Operator)
    (left right : FlatFormula α) : FlatFormula α :=
  ⟨left.earlier ++ (left.last, operator) :: right.earlier, right.last⟩

/-- One formula and others after it, with the operator between any two neighbours. -/
def glueAll
    (operator : Operator) :
    FlatFormula α → List (FlatFormula α) → FlatFormula α
  | formula, [] => formula
  | formula, next :: later => glue operator formula (glueAll operator next later)

/-- The formula with a function applied to each operand. -/
def map
    (change : α → β)
    (formula : FlatFormula α) : FlatFormula β :=
  ⟨formula.earlier.map fun entry => (change entry.1, entry.2), change formula.last⟩

/-- Two formulas have the same operators, and their operands are related one by one. -/
def Related
    (relation : α → β → Prop)
    (left : FlatFormula α)
    (right : FlatFormula β) : Prop :=
  List.Forall₂ (fun first second => relation first.1 second.1 ∧ first.2 = second.2)
      left.earlier right.earlier ∧
    relation left.last right.last

/-- The parts of a formula between the occurrences of an operator: the first part and the others. -/
def cutFrom
    (operator : Operator)
    (last : α) :
    List (α × Operator) → FlatFormula α × List (FlatFormula α)
  | [] => (single last, [])
  | (operand, following) :: later =>
      let (part, others) := cutFrom operator last later
      if following = operator then
        (single operand, part :: others)
      else
        (cons operand following part, others)

/-- The parts of a formula between the occurrences of an operator: the first part and the others. -/
def cut
    (operator : Operator)
    (formula : FlatFormula α) : FlatFormula α × List (FlatFormula α) :=
  cutFrom operator formula.last formula.earlier

/-- All parts of a formula between the occurrences of an operator. -/
def parts
    (operator : Operator)
    (formula : FlatFormula α) : List (FlatFormula α) :=
  (formula.cut operator).1 :: (formula.cut operator).2

/--
The tree of a flat formula for operators in the order in which they are looked for: the first of
them that occurs makes the root, and each part between its occurrences is grouped in the same way.
-/
def group : List Operator → FlatFormula Expression → Expression
  | [], formula => formula.last
  | operator :: tighter, formula =>
      match formula.cut operator with
      | (only, []) => group tighter only
      | (first, second :: others) =>
          .operation operator (group tighter first)
            ((second :: others).map (group tighter))

/-! ## Operators and operands of glued formulas -/

theorem last_mem_operands
    (formula : FlatFormula α) :
    formula.last ∈ formula.operands :=
  List.mem_append_right _ (List.mem_singleton_self _)

@[simp] theorem operators_single
    (operand : α) :
    (single operand).operators = [] :=
  rfl

@[simp] theorem operands_single
    (operand : α) :
    (single operand).operands = [operand] :=
  rfl

@[simp] theorem operators_glue
    (operator : Operator)
    (left right : FlatFormula α) :
    (glue operator left right).operators =
      left.operators ++ operator :: right.operators := by
  simp [glue, operators]

@[simp] theorem operands_glue
    (operator : Operator)
    (left right : FlatFormula α) :
    (glue operator left right).operands = left.operands ++ right.operands := by
  simp [glue, operands]

theorem glue_assoc
    (first second : Operator)
    (left middle right : FlatFormula α) :
    glue second (glue first left middle) right =
      glue first left (glue second middle right) := by
  simp [glue]

/-- Gluing from the left gives the same as gluing from the right. -/
theorem glueAll_cons
    (operator : Operator)
    (first next : FlatFormula α)
    (later : List (FlatFormula α)) :
    glueAll operator first (next :: later) = glueAll operator (glue operator first next) later := by
  cases later with
  | nil =>
      rfl
  | cons following rest =>
      rw [glueAll, glueAll, glueAll, glue_assoc]

theorem operands_glueAll
    (operator : Operator)
    (first : FlatFormula α)
    (others : List (FlatFormula α)) :
    (glueAll operator first others).operands =
      (first :: others).flatMap operands := by
  induction others generalizing first with
  | nil =>
      simp [glueAll]
  | cons next later inductionHypothesis =>
      simp only [glueAll, operands_glue, inductionHypothesis next,
        List.flatMap_cons]

/-- The operators of a glued formula are those of its parts and the one between them. -/
theorem mem_operators_glueAll
    {operator member : Operator}
    {first : FlatFormula α}
    {others : List (FlatFormula α)}
    (inside : member ∈ (glueAll operator first others).operators) :
    member = operator ∨
      ∃ part ∈ first :: others, member ∈ part.operators := by
  induction others generalizing first with
  | nil =>
      exact Or.inr ⟨first, by simp, inside⟩
  | cons next later inductionHypothesis =>
      simp only [glueAll, operators_glue, List.mem_append,
        List.mem_cons] at inside
      rcases inside with inFirst | same | inLater
      · exact Or.inr ⟨first, by simp, inFirst⟩
      · exact Or.inl same
      · rcases inductionHypothesis inLater with same | ⟨part, isPart, inPart⟩
        · exact Or.inl same
        · exact Or.inr ⟨part, List.mem_cons_of_mem _ isPart, inPart⟩

theorem map_glue
    (change : α → β)
    (operator : Operator)
    (left right : FlatFormula α) :
    (glue operator left right).map change =
      glue operator (left.map change) (right.map change) := by
  simp [glue, map]

@[simp] theorem operators_map
    (change : α → β)
    (formula : FlatFormula α) :
    (formula.map change).operators = formula.operators := by
  simp [operators, map]

@[simp] theorem operands_map
    (change : α → β)
    (formula : FlatFormula α) :
    (formula.map change).operands = formula.operands.map change := by
  simp [operands, map]

theorem map_map
    {γ : Type}
    (change : α → β)
    (changeAgain : β → γ)
    (formula : FlatFormula α) :
    (formula.map change).map changeAgain =
      formula.map fun operand => changeAgain (change operand) := by
  simp [map]

/-! ## Cutting undoes gluing, and gluing undoes cutting -/

theorem cutFrom_append
    {operator : Operator}
    {earlier : List (α × Operator)}
    (absent : operator ∉ earlier.map Prod.snd)
    (operand last : α)
    (later : List (α × Operator)) :
    cutFrom operator last (earlier ++ (operand, operator) :: later) =
      (⟨earlier, operand⟩,
        (cutFrom operator last later).1 :: (cutFrom operator last later).2) := by
  induction earlier with
  | nil =>
      simp [cutFrom, single]
  | cons entry rest inductionHypothesis =>
      obtain ⟨leading, following⟩ := entry
      simp only [List.map_cons, List.mem_cons, not_or] at absent
      have different : following ≠ operator := Ne.symm absent.1
      simp [cutFrom, inductionHypothesis absent.2, different, cons]

/-- A formula is not cut at an operator that it does not contain. -/
theorem cut_of_not_mem
    {operator : Operator}
    {formula : FlatFormula α}
    (absent : operator ∉ formula.operators) :
    formula.cut operator = (formula, []) := by
  obtain ⟨earlier, last⟩ := formula
  simp only [cut, operators] at absent ⊢
  induction earlier with
  | nil =>
      rfl
  | cons entry rest inductionHypothesis =>
      obtain ⟨leading, following⟩ := entry
      simp only [List.map_cons, List.mem_cons, not_or] at absent
      have different : following ≠ operator := Ne.symm absent.1
      simp [cutFrom, inductionHypothesis absent.2, different, cons]

/-- The first occurrence of an operator cuts off what stands before it. -/
theorem cut_glue
    {operator : Operator}
    {left : FlatFormula α}
    (absent : operator ∉ left.operators)
    (right : FlatFormula α) :
    (glue operator left right).cut operator = (left, right.parts operator) :=
  cutFrom_append absent left.last right.last right.earlier

/-- Cutting at an operator finds the formulas that were glued with it. -/
theorem cut_glueAll
    {operator : Operator}
    {first : FlatFormula α}
    {others : List (FlatFormula α)}
    (absent : ∀ part ∈ first :: others, operator ∉ part.operators) :
    (glueAll operator first others).cut operator = (first, others) := by
  induction others generalizing first with
  | nil =>
      exact cut_of_not_mem (absent first (by simp))
  | cons next later inductionHypothesis =>
      have laterAbsent : ∀ part ∈ next :: later, operator ∉ part.operators :=
        fun part member => absent part (List.mem_cons_of_mem _ member)
      rw [glueAll, cut_glue (absent first (by simp)), parts,
        inductionHypothesis laterAbsent]

/-- Gluing the parts of a formula gives the formula again. -/
theorem glueAll_cut
    (operator : Operator)
    (formula : FlatFormula α) :
    glueAll operator (formula.cut operator).1 (formula.cut operator).2 =
      formula := by
  obtain ⟨earlier, last⟩ := formula
  simp only [cut]
  induction earlier with
  | nil =>
      rfl
  | cons entry rest inductionHypothesis =>
      obtain ⟨operand, following⟩ := entry
      simp only [cutFrom]
      split
      · rename_i same
        rw [glueAll, inductionHypothesis, same]
        rfl
      · generalize cutFrom operator last rest = found at inductionHypothesis ⊢
        obtain ⟨part, others⟩ := found
        cases others with
        | nil =>
            simp only [glueAll] at inductionHypothesis ⊢
            rw [inductionHypothesis]
            rfl
        | cons next later =>
            simp only [glueAll, glue, cons, List.cons_append,
              FlatFormula.mk.injEq] at inductionHypothesis ⊢
            exact ⟨congrArg _ inductionHypothesis.1, inductionHypothesis.2⟩

/-- The parts between the occurrences of an operator do not contain it. -/
theorem not_mem_operators_of_mem_parts
    {operator : Operator}
    {formula part : FlatFormula α}
    (isPart : part ∈ formula.parts operator) :
    operator ∉ part.operators := by
  obtain ⟨earlier, last⟩ := formula
  simp only [parts, cut] at isPart
  induction earlier generalizing part with
  | nil =>
      simp only [cutFrom, List.mem_cons, List.not_mem_nil, or_false] at isPart
      simp [isPart]
  | cons entry rest inductionHypothesis =>
      obtain ⟨operand, following⟩ := entry
      simp only [cutFrom] at isPart
      split at isPart
      · rcases List.mem_cons.mp isPart with isFirst | isLater
        · simp [isFirst]
        · exact inductionHypothesis isLater
      · rename_i different
        rcases List.mem_cons.mp isPart with isFirst | isLater
        · have absent := inductionHypothesis (List.mem_cons_self ..)
          subst isFirst
          simp only [operators, cons, List.map_cons, List.mem_cons, not_or]
          exact ⟨Ne.symm different, absent⟩
        · exact inductionHypothesis (List.mem_cons_of_mem _ isLater)

theorem mem_operators_glueAll_of_mem
    {operator member : Operator}
    {first part : FlatFormula α}
    {others : List (FlatFormula α)}
    (isPart : part ∈ first :: others)
    (inside : member ∈ part.operators) :
    member ∈ (glueAll operator first others).operators := by
  induction others generalizing first with
  | nil =>
      rw [List.mem_singleton.mp isPart] at inside
      exact inside
  | cons next later inductionHypothesis =>
      rw [glueAll, operators_glue]
      rcases List.mem_cons.mp isPart with isFirst | isLater
      · subst isFirst
        exact List.mem_append_left _ inside
      · exact List.mem_append_right _
          (List.mem_cons_of_mem _ (inductionHypothesis isLater))

/-- The operators of a part are operators of the formula. -/
theorem mem_operators_of_mem_parts
    {operator member : Operator}
    {formula part : FlatFormula α}
    (isPart : part ∈ formula.parts operator)
    (inside : member ∈ part.operators) :
    member ∈ formula.operators := by
  rw [← glueAll_cut operator formula]
  exact mem_operators_glueAll_of_mem isPart inside

/-- The operands of a formula are those of its parts. -/
theorem flatMap_operands_parts
    (operator : Operator)
    (formula : FlatFormula α) :
    (formula.parts operator).flatMap operands = formula.operands := by
  rw [parts, ← operands_glueAll operator, glueAll_cut]

/-- The operands of a part are operands of the formula. -/
theorem mem_operands_of_mem_parts
    {operator : Operator}
    {formula part : FlatFormula α}
    (isPart : part ∈ formula.parts operator)
    {operand : α}
    (inside : operand ∈ part.operands) :
    operand ∈ formula.operands := by
  rw [← flatMap_operands_parts operator formula]
  exact List.mem_flatMap.mpr ⟨part, isPart, inside⟩

/-- A formula has one part exactly if it does not contain the operator. -/
theorem cut_snd_eq_nil_iff
    {operator : Operator}
    {formula : FlatFormula α} :
    (formula.cut operator).2 = [] ↔ operator ∉ formula.operators := by
  constructor
  · intro onePart inside
    have whole := glueAll_cut operator formula
    rw [onePart, glueAll] at whole
    have absent : operator ∉ (formula.cut operator).1.operators :=
      not_mem_operators_of_mem_parts (List.mem_cons_self ..)
    exact absent (whole.symm ▸ inside)
  · intro absent
    rw [cut_of_not_mem absent]

theorem cut_map
    (change : α → β)
    (operator : Operator)
    (formula : FlatFormula α) :
    (formula.map change).cut operator =
      ((formula.cut operator).1.map change,
        (formula.cut operator).2.map (map change)) := by
  obtain ⟨earlier, last⟩ := formula
  simp only [cut, map]
  induction earlier with
  | nil =>
      rfl
  | cons entry rest inductionHypothesis =>
      obtain ⟨operand, following⟩ := entry
      simp only [List.map_cons, cutFrom, inductionHypothesis]
      split <;> simp [single, cons, map]

theorem parts_map
    (change : α → β)
    (operator : Operator)
    (formula : FlatFormula α) :
    (formula.map change).parts operator = (formula.parts operator).map (map change) := by
  rw [parts, cut_map]
  rfl

/-- A formula without operators is its last operand. -/
theorem eq_single_of_forall_mem_nil
    {formula : FlatFormula α}
    (noOperator : ∀ operator ∈ formula.operators, operator ∈ ([] : List Operator)) :
    formula = single formula.last := by
  obtain ⟨earlier, last⟩ := formula
  have empty := List.eq_nil_of_subset_nil noOperator
  rw [single, FlatFormula.mk.injEq]
  exact ⟨List.map_eq_nil_iff.mp empty, rfl⟩

/-! ## One step of grouping -/

/-- The operators of a formula without the first operator of the order are among the others. -/
theorem forall_mem_tighter
    {operator : Operator}
    {tighter : List Operator}
    {formula : FlatFormula α}
    (inOrder : ∀ inner ∈ formula.operators, inner ∈ operator :: tighter)
    (absent : operator ∉ formula.operators) :
    ∀ inner ∈ formula.operators, inner ∈ tighter := by
  intro inner inside
  rcases List.mem_cons.mp (inOrder inner inside) with same | inTighter
  · subst same
    exact absurd inside absent
  · exact inTighter

/-- Whatever is cut off at the first operator of the order has only the others. -/
theorem forall_mem_tighter_of_mem_parts
    {operator : Operator}
    {tighter : List Operator}
    {formula part : FlatFormula α}
    (inOrder : ∀ inner ∈ formula.operators, inner ∈ operator :: tighter)
    (isPart : part ∈ formula.parts operator) :
    ∀ inner ∈ part.operators, inner ∈ tighter :=
  forall_mem_tighter
    (fun inner inside => inOrder inner (mem_operators_of_mem_parts isPart inside))
    (not_mem_operators_of_mem_parts isPart)

/-- An operator that does not occur is passed over. -/
theorem group_cons_of_not_mem
    {operator : Operator}
    {formula : FlatFormula Expression}
    (absent : operator ∉ formula.operators)
    (tighter : List Operator) :
    group (operator :: tighter) formula = group tighter formula := by
  rw [group, cut_of_not_mem absent]

/-- An operator that occurs makes the root. -/
theorem group_cons_of_mem
    {operator : Operator}
    {formula : FlatFormula Expression}
    (present : operator ∈ formula.operators)
    (tighter : List Operator) :
    group (operator :: tighter) formula =
      .operation operator (group tighter (formula.cut operator).1)
        ((formula.cut operator).2.map (group tighter)) := by
  have several : (formula.cut operator).2 ≠ [] :=
    fun onePart => cut_snd_eq_nil_iff.mp onePart present
  rw [group]
  generalize formula.cut operator = found at several ⊢
  obtain ⟨first, others⟩ := found
  cases others with
  | nil =>
      exact absurd rfl several
  | cons second later =>
      rfl

end FlatFormula

end Spreadsheet
