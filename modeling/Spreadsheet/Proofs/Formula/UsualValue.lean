import Spreadsheet.Proofs.Formula.FlatFormula
import Mathlib

namespace Spreadsheet.FlatFormula

/-!
# The usual value of a formula

Numbers with additions, subtractions and multiplications between them have a value by the usual
rules: products come first, and sums and differences are computed from left to right. Cutting a
formula at all its additions, then at all its subtractions, and then at its multiplications leads to
the same value, although it computes differences before sums.
-/

variable {α : Type}

/-- Nothing but additions, subtractions and multiplications stands between the operands. -/
def IsSumOfProducts (formula : FlatFormula α) : Prop :=
  ∀ operator ∈ formula.operators, operator = .plus ∨ operator = .minus ∨ operator = .times

instance (formula : FlatFormula α) : Decidable formula.IsSumOfProducts :=
  inferInstanceAs (Decidable (∀ operator ∈ formula.operators, _))

theorem IsSumOfProducts.map
    {β : Type}
    {formula : FlatFormula α}
    (isSum : formula.IsSumOfProducts)
    (change : α → β) :
    (formula.map change).IsSumOfProducts := by
  rwa [IsSumOfProducts, operators_map]

/-- Cutting a sum of products leaves sums of products. -/
theorem IsSumOfProducts.of_mem_parts
    {operator : Operator}
    {formula part : FlatFormula α}
    (isSum : formula.IsSumOfProducts)
    (isPart : part ∈ formula.parts operator) :
    part.IsSumOfProducts :=
  fun inner inside => isSum inner (mem_operators_of_mem_parts isPart inside)

/-- Nothing but multiplications stands between the operands. -/
def IsProduct (formula : FlatFormula α) : Prop :=
  ∀ operator ∈ formula.operators, operator = .times

/--
What a formula comes to by the usual rules. A product is a term; a term is added to what stands
before it, or subtracted from that.
-/
inductive ComesTo : FlatFormula Int → Int → Prop where
  | product {term : FlatFormula Int} :
      term.IsProduct →
      ComesTo term term.operands.prod
  | plus {sum term : FlatFormula Int} {value : Int} :
      ComesTo sum value →
      term.IsProduct →
      ComesTo (glue .plus sum term) (value + term.operands.prod)
  | minus {sum term : FlatFormula Int} {value : Int} :
      ComesTo sum value →
      term.IsProduct →
      ComesTo (glue .minus sum term) (value - term.operands.prod)

theorem isProduct_single
    (operand : α) :
    (single operand).IsProduct := by
  simp [IsProduct]

theorem comesTo_single
    (number : Int) :
    ComesTo (single number) number := by
  simpa using ComesTo.product (isProduct_single number)

/-! ## Every formula of these operators has one value -/

theorem IsProduct.glue
    {left right : FlatFormula α}
    (leftIsProduct : left.IsProduct)
    (rightIsProduct : right.IsProduct) :
    (glue .times left right).IsProduct := by
  intro operator member
  rw [operators_glue] at member
  rcases List.mem_append.mp member with inLeft | isTimesOrInRight
  · exact leftIsProduct operator inLeft
  · rcases List.mem_cons.mp isTimesOrInRight with isTimes | inRight
    · exact isTimes
    · exact rightIsProduct operator inRight

/-- What is put together with another operator is no product. -/
theorem not_isProduct_glue
    {operator : Operator}
    (notTimes : operator ≠ .times)
    (left right : FlatFormula α) :
    ¬ (glue operator left right).IsProduct := by
  intro isProduct
  apply notTimes
  apply isProduct
  simp

/-- The last operator other than a multiplication is where the last term begins. -/
theorem glue_eq_glue
    {first second : Operator}
    {left otherLeft term otherTerm : FlatFormula α}
    (firstNotTimes : first ≠ .times)
    (secondNotTimes : second ≠ .times)
    (isProduct : term.IsProduct)
    (otherIsProduct : otherTerm.IsProduct)
    (same : glue first left term = glue second otherLeft otherTerm) :
    first = second ∧ left = otherLeft ∧ term = otherTerm := by
  obtain ⟨earlier, last⟩ := left
  obtain ⟨otherEarlier, otherLast⟩ := otherLeft
  obtain ⟨factors, lastFactor⟩ := term
  obtain ⟨otherFactors, otherLastFactor⟩ := otherTerm
  simp only [glue, FlatFormula.mk.injEq] at same
  obtain ⟨sameEntries, rfl⟩ := same
  -- If one of the terms began later, then the other would contain the operator before it.
  rcases List.append_eq_append_iff.mp sameEntries with
    ⟨between, _, behind⟩ | ⟨between, _, behind⟩
  · cases between with
    | nil =>
        simp_all
    | cons entry between =>
        obtain ⟨rfl, rfl⟩ := List.cons.inj behind
        exact absurd (isProduct second (by simp [operators])) secondNotTimes
  · cases between with
    | nil =>
        simp_all
    | cons entry between =>
        obtain ⟨rfl, rfl⟩ := List.cons.inj behind
        exact absurd (otherIsProduct first (by simp [operators])) firstNotTimes

/-- What stands before the last term has a value, to which the term is added or subtracted. -/
theorem ComesTo.exists_of_glue
    {operator : Operator}
    {sum term : FlatFormula Int}
    {value : Int}
    (notTimes : operator ≠ .times)
    (isProduct : term.IsProduct)
    (comes : ComesTo (glue operator sum term) value) :
    ∃ before,
      ComesTo sum before ∧
        (operator = .plus ∧ value = before + term.operands.prod ∨
          operator = .minus ∧ value = before - term.operands.prod) := by
  generalize same : glue operator sum term = formula at comes
  cases comes with
  | product formulaIsProduct =>
      exact absurd (same ▸ formulaIsProduct) (not_isProduct_glue notTimes _ _)
  | plus sumComes otherIsProduct =>
      obtain ⟨rfl, rfl, rfl⟩ :=
        glue_eq_glue notTimes (by decide) isProduct otherIsProduct same
      exact ⟨_, sumComes, Or.inl ⟨rfl, rfl⟩⟩
  | minus sumComes otherIsProduct =>
      obtain ⟨rfl, rfl, rfl⟩ :=
        glue_eq_glue notTimes (by decide) isProduct otherIsProduct same
      exact ⟨_, sumComes, Or.inr ⟨rfl, rfl⟩⟩

/-- A formula comes to one value only. -/
theorem ComesTo.unique
    {formula : FlatFormula Int}
    {value other : Int}
    (comes : ComesTo formula value)
    (comesToo : ComesTo formula other) :
    value = other := by
  induction comes generalizing other with
  | product isProduct =>
      cases comesToo with
      | product =>
          rfl
      | plus =>
          exact absurd isProduct (not_isProduct_glue (by decide) _ _)
      | minus =>
          exact absurd isProduct (not_isProduct_glue (by decide) _ _)
  | plus _ isProduct inductionHypothesis =>
      obtain ⟨before, sumComes, ⟨_, rfl⟩ | ⟨isMinus, _⟩⟩ :=
        comesToo.exists_of_glue (by decide) isProduct
      · rw [inductionHypothesis sumComes]
      · contradiction
  | minus _ isProduct inductionHypothesis =>
      obtain ⟨before, sumComes, ⟨isPlus, _⟩ | ⟨_, rfl⟩⟩ :=
        comesToo.exists_of_glue (by decide) isProduct
      · contradiction
      · rw [inductionHypothesis sumComes]

/-- A product comes to the product of its operands. -/
theorem ComesTo.eq_prod
    {term : FlatFormula Int}
    {value : Int}
    (comes : ComesTo term value)
    (isProduct : term.IsProduct) :
    value = term.operands.prod :=
  comes.unique (.product isProduct)

/-- One more operand in front of a formula changes only its first term. -/
theorem ComesTo.exists_glue_single
    {formula : FlatFormula Int}
    {value : Int}
    (comes : ComesTo formula value)
    {operator : Operator}
    (arithmetic : operator = .plus ∨ operator = .minus ∨ operator = .times)
    (operand : Int) :
    ∃ changed, ComesTo (glue operator (single operand) formula) changed := by
  have isProduct := isProduct_single operand
  induction comes with
  | @product term termIsProduct =>
      rcases arithmetic with rfl | rfl | rfl
      · exact ⟨_, .plus (.product isProduct) termIsProduct⟩
      · exact ⟨_, .minus (.product isProduct) termIsProduct⟩
      · exact ⟨_, .product (isProduct.glue termIsProduct)⟩
  | plus _ termIsProduct inductionHypothesis =>
      obtain ⟨changed, sumComes⟩ := inductionHypothesis
      rw [← glue_assoc]
      exact ⟨_, .plus sumComes termIsProduct⟩
  | minus _ termIsProduct inductionHypothesis =>
      obtain ⟨changed, sumComes⟩ := inductionHypothesis
      rw [← glue_assoc]
      exact ⟨_, .minus sumComes termIsProduct⟩

/-- A formula of additions, subtractions and multiplications has a value. -/
theorem exists_comesTo
    {formula : FlatFormula Int}
    (isSum : formula.IsSumOfProducts) :
    ∃ value, ComesTo formula value := by
  obtain ⟨earlier, last⟩ := formula
  induction earlier with
  | nil =>
      exact ⟨_, comesTo_single last⟩
  | cons entry rest inductionHypothesis =>
      obtain ⟨operand, operator⟩ := entry
      have laterIsSum : IsSumOfProducts ⟨rest, last⟩ :=
        fun other member => isSum other (List.mem_cons_of_mem _ member)
      obtain ⟨value, comes⟩ := inductionHypothesis laterIsSum
      exact comes.exists_glue_single (isSum operator (List.mem_cons_self ..)) operand

/-! ## Values of glued formulas -/

/-- Two sums are added as a whole. -/
theorem ComesTo.glue_plus
    {left right : FlatFormula Int}
    {leftValue rightValue : Int}
    (leftComes : ComesTo left leftValue)
    (rightComes : ComesTo right rightValue) :
    ComesTo (glue .plus left right) (leftValue + rightValue) := by
  induction rightComes with
  | product isProduct =>
      exact .plus leftComes isProduct
  | plus _ isProduct inductionHypothesis =>
      rw [← glue_assoc, ← add_assoc]
      exact .plus inductionHypothesis isProduct
  | minus _ isProduct inductionHypothesis =>
      rw [← glue_assoc, ← add_sub_assoc]
      exact .minus inductionHypothesis isProduct

/-- Formulas put together with plus come to the sum of what they come to. -/
theorem comesTo_glueAll_plus
    {first : FlatFormula Int}
    {others : List (FlatFormula Int)}
    {value : Int}
    {values : List Int}
    (firstComes : ComesTo first value)
    (othersCome : List.Forall₂ ComesTo others values) :
    ComesTo (glueAll .plus first others) (value + values.sum) := by
  induction othersCome generalizing first value with
  | nil =>
      simpa [glueAll] using firstComes
  | cons nextComes _ inductionHypothesis =>
      rw [List.sum_cons]
      exact firstComes.glue_plus (inductionHypothesis nextComes)

/-- Products are subtracted one after the other. -/
theorem comesTo_glueAll_minus
    {first : FlatFormula Int}
    {others : List (FlatFormula Int)}
    {value : Int}
    {values : List Int}
    (firstComes : ComesTo first value)
    (othersCome : List.Forall₂ ComesTo others values)
    (areProducts : ∀ other ∈ others, other.IsProduct) :
    ComesTo (glueAll .minus first others) (value - values.sum) := by
  induction othersCome generalizing first value with
  | nil =>
      simpa [glueAll] using firstComes
  | cons nextComes _ inductionHypothesis =>
      obtain ⟨nextIsProduct, laterAreProducts⟩ := List.forall_mem_cons.mp areProducts
      rw [glueAll_cons, List.sum_cons, ← sub_sub, nextComes.eq_prod nextIsProduct]
      exact inductionHypothesis (.minus firstComes nextIsProduct) laterAreProducts

/-- Two products put together come to the product of what they come to. -/
theorem ComesTo.glue_times
    {left right : FlatFormula Int}
    {leftValue rightValue : Int}
    (leftComes : ComesTo left leftValue)
    (rightComes : ComesTo right rightValue)
    (leftIsProduct : left.IsProduct)
    (rightIsProduct : right.IsProduct) :
    ComesTo (glue .times left right) (leftValue * rightValue) := by
  have comes := ComesTo.product (leftIsProduct.glue rightIsProduct)
  rwa [operands_glue, List.prod_append, ← leftComes.eq_prod leftIsProduct,
    ← rightComes.eq_prod rightIsProduct] at comes

/-- Products put together come to the product of what they come to. -/
theorem comesTo_glueAll_times
    {first : FlatFormula Int}
    {others : List (FlatFormula Int)}
    {value : Int}
    {values : List Int}
    (firstComes : ComesTo first value)
    (othersCome : List.Forall₂ ComesTo others values)
    (firstIsProduct : first.IsProduct)
    (areProducts : ∀ other ∈ others, other.IsProduct) :
    ComesTo (glueAll .times first others) (value * values.prod) := by
  induction othersCome generalizing first value with
  | nil =>
      simpa [glueAll] using firstComes
  | cons nextComes _ inductionHypothesis =>
      obtain ⟨nextIsProduct, laterAreProducts⟩ := List.forall_mem_cons.mp areProducts
      rw [glueAll_cons, List.prod_cons, ← mul_assoc]
      exact inductionHypothesis
        (firstComes.glue_times nextComes firstIsProduct nextIsProduct)
        (firstIsProduct.glue nextIsProduct) laterAreProducts

/-! ## Stretches of a formula -/

/-- Operands of the second formula that stand next to each other, with the operators between them. -/
inductive IsStretch : FlatFormula α → FlatFormula α → Prop where
  | whole (formula : FlatFormula α) :
      IsStretch formula formula
  | left {stretch left : FlatFormula α} (operator : Operator) (right : FlatFormula α) :
      IsStretch stretch left →
      IsStretch stretch (glue operator left right)
  | right {stretch right : FlatFormula α} (operator : Operator) (left : FlatFormula α) :
      IsStretch stretch right →
      IsStretch stretch (glue operator left right)

/-- A stretch of a stretch of a formula is one of the formula. -/
theorem IsStretch.trans
    {inner stretch formula : FlatFormula α}
    (isInner : IsStretch inner stretch)
    (isStretch : IsStretch stretch formula) :
    IsStretch inner formula := by
  induction isStretch with
  | whole =>
      exact isInner
  | left operator right _ inductionHypothesis =>
      exact .left operator right inductionHypothesis
  | right operator left _ inductionHypothesis =>
      exact .right operator left inductionHypothesis

/-- Each of the formulas that are put together is a stretch of the whole. -/
theorem isStretch_glueAll_of_mem
    {operator : Operator}
    {first part : FlatFormula α}
    {others : List (FlatFormula α)}
    (isPart : part ∈ first :: others) :
    IsStretch part (glueAll operator first others) := by
  induction others generalizing first with
  | nil =>
      rw [List.mem_singleton.mp isPart]
      exact .whole first
  | cons next later inductionHypothesis =>
      rcases List.mem_cons.mp isPart with isFirst | isLater
      · rw [isFirst]
        exact .left operator _ (.whole first)
      · exact .right operator first (inductionHypothesis isLater)

/-- The first few of the formulas that are put together are a stretch of the whole. -/
theorem isStretch_glueAll_of_prefix
    (operator : Operator)
    (first : FlatFormula α)
    {begun others : List (FlatFormula α)}
    (isPrefix : begun <+: others) :
    IsStretch (glueAll operator first begun) (glueAll operator first others) := by
  obtain ⟨later, rfl⟩ := isPrefix
  induction begun generalizing first with
  | nil =>
      exact isStretch_glueAll_of_mem (List.mem_cons_self ..)
  | cons next begun inductionHypothesis =>
      rw [List.cons_append, glueAll_cons, glueAll_cons]
      exact inductionHypothesis (glue operator first next)

end Spreadsheet.FlatFormula
