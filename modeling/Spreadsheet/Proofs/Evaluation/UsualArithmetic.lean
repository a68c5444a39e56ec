import Spreadsheet.Proofs.Evaluation.BigStep
import Spreadsheet.Proofs.Formula.NormalForm
import Spreadsheet.Proofs.Formula.UsualValue
import Spreadsheet.Proofs.Operator.Fold

namespace Spreadsheet

/-!
# Sums, differences and products have their usual values

A formula without comparisons and divisions is cut at all its additions first, then at its
subtractions, and then at its multiplications. Evaluating it still gives the value by the usual
rules, or overflows; and it overflows only if some stretch of the formula has a value that does not
fit 64 bits.
-/

open FlatFormula

/-! ## What one operation does -/

namespace FlatFormula

/-- Some stretch of the formula has a value that does not fit 64 bits. -/
def HasOverflowingStretch (numbers : FlatFormula Int) : Prop :=
  ∃ stretch value,
    IsStretch stretch numbers ∧ ComesTo stretch value ∧ ¬ Bounded.FitsInt64 value

/-- The outcome is the value of the formula, or an overflow that one of its stretches explains. -/
def ComputesOrOverflows
    (numbers : FlatFormula Int)
    (outcome : Outcome Expression) : Prop :=
  (∃ word : Int64, ComesTo numbers word.toInt ∧ outcome = .ok (.constant word)) ∨
  (HasOverflowingStretch numbers ∧ outcome = .error .overflow)

theorem HasOverflowingStretch.of_isStretch
    {stretch numbers : FlatFormula Int}
    (overflows : HasOverflowingStretch stretch)
    (isStretch : IsStretch stretch numbers) :
    HasOverflowingStretch numbers := by
  obtain ⟨inner, value, isInner, comes, tooLarge⟩ := overflows
  exact ⟨inner, value, isInner.trans isStretch, comes, tooLarge⟩

/-- All operators of the formula bind more tightly than the given one. -/
def BindsMoreTightly
    {α : Type}
    (operator : Operator)
    (formula : FlatFormula α) : Prop :=
  ∀ inner ∈ formula.operators, operator.rank < inner.rank

/-- What is cut off at an operator that is looked for first binds more tightly than this operator. -/
theorem forall_mem_parts_bindMoreTightly
    {operator : Operator}
    {looser tighter : List Operator}
    (whole : Operator.scanOrder = looser ++ operator :: tighter)
    {formula : FlatFormula Int}
    (isSum : formula.IsSumOfProducts)
    (inOrder : ∀ inner ∈ formula.operators, inner ∈ operator :: tighter) :
    ∀ part ∈ formula.parts operator, part.IsSumOfProducts ∧ part.BindsMoreTightly operator := by
  intro part isPart
  refine ⟨isSum.of_mem_parts isPart, fun inner inside => ?_⟩
  exact (Operator.rank_lt_rank_iff whole).mpr
    (forall_mem_tighter_of_mem_parts inOrder isPart inner inside)

/--
Folding with the operator is exact for the total, and so is gluing: the values of formulas that bind
more tightly make the value of the glued formula.
-/
structure IsExact
    (operator : Operator)
    (total : Int → List Int → Int) : Prop where
  folds (first : Int64) (rest : List Int64) :
    operator.FoldsExactly first rest (total first.toInt)
  glues {first : FlatFormula Int} {others : List (FlatFormula Int)}
      {value : Int} {values : List Int} :
    (∀ part ∈ first :: others, part.IsSumOfProducts ∧ part.BindsMoreTightly operator) →
    ComesTo first value →
    List.Forall₂ ComesTo others values →
    ComesTo (glueAll operator first others) (total value values)

/-- What binds more tightly than a difference, and is no division, is a product. -/
theorem isProduct_of_bindsMoreTightly
    {operator : Operator}
    {part : FlatFormula Int}
    (isSum : part.IsSumOfProducts)
    (tight : part.BindsMoreTightly operator)
    (atLeastMinus : Operator.minus.rank ≤ operator.rank) :
    part.IsProduct := by
  intro inner inside
  have higher := Nat.lt_of_le_of_lt atLeastMinus (tight inner inside)
  rcases isSum inner inside with rfl | rfl | isTimes
  · exact absurd higher (by decide)
  · exact absurd higher (by decide)
  · exact isTimes

theorem isExact_plus :
    IsExact .plus fun value values => value + values.sum where
  folds := Operator.foldsExactly_plus
  glues _ firstComes othersCome := comesTo_glueAll_plus firstComes othersCome

theorem isExact_minus :
    IsExact .minus fun value values => value - values.sum where
  folds := Operator.foldsExactly_minus
  glues parts firstComes othersCome := by
    refine comesTo_glueAll_minus firstComes othersCome fun other member => ?_
    obtain ⟨isSum, tight⟩ := parts other (List.mem_cons_of_mem _ member)
    exact isProduct_of_bindsMoreTightly isSum tight (by decide)

theorem isExact_times :
    IsExact .times fun value values => value * values.prod where
  folds := Operator.foldsExactly_times
  glues {first others value values} parts firstComes othersCome := by
    have areProducts : ∀ part ∈ first :: others, part.IsProduct := by
      intro part member
      obtain ⟨isSum, tight⟩ := parts part member
      exact isProduct_of_bindsMoreTightly isSum tight (by decide)
    obtain ⟨firstIsProduct, othersAreProducts⟩ := List.forall_mem_cons.mp areProducts
    exact comesTo_glueAll_times firstComes othersCome firstIsProduct othersAreProducts

theorem exists_isExact
    {operator : Operator}
    (arithmetic : operator = .plus ∨ operator = .minus ∨ operator = .times) :
    ∃ total, IsExact operator total := by
  rcases arithmetic with rfl | rfl | rfl
  · exact ⟨_, isExact_plus⟩
  · exact ⟨_, isExact_minus⟩
  · exact ⟨_, isExact_times⟩

end FlatFormula

namespace Expression

variable {resolve : String → Outcome Expression}

/-- Operands give the values of their formulas, unless one of these has a stretch that overflows. -/
theorem reduceOperands_computes
    {formulas : List (FlatFormula Int)}
    {operands : List Expression}
    (compute :
      List.Forall₂ (fun formula operand => ComputesOrOverflows formula (reduce resolve operand))
        formulas operands) :
    (∃ words,
      List.Forall₂ ComesTo formulas (words.map Int64.toInt) ∧
        reduceOperands resolve operands = .ok words) ∨
    ((∃ formula ∈ formulas, HasOverflowingStretch formula) ∧
      reduceOperands resolve operands = .error .overflow) := by
  induction compute with
  | nil =>
      exact Or.inl ⟨[], .nil, rfl⟩
  | cons computes _ inductionHypothesis =>
      rcases computes with ⟨word, comes, reduces⟩ | ⟨overflowing, overflows⟩
      · rw [reduceOperands_cons_of_constant reduces]
        rcases inductionHypothesis with
          ⟨words, laterCome, laterReduce⟩ | ⟨⟨formula, member, overflowing⟩, laterOverflow⟩
        · exact Or.inl ⟨word :: words, .cons comes laterCome, by rw [laterReduce]; rfl⟩
        · refine Or.inr ⟨⟨formula, List.mem_cons_of_mem _ member, overflowing⟩, ?_⟩
          rw [laterOverflow]
          rfl
      · rw [reduceOperands_cons_of_error overflows]
        exact Or.inr ⟨⟨_, List.mem_cons_self .., overflowing⟩, rfl⟩

/-- Partial totals that do not fit are values of stretches at the beginning of the formula. -/
theorem hasOverflowingStretch_of_not_fit
    {operator : Operator}
    {total : Int → List Int → Int}
    (exact : IsExact operator total)
    {first : FlatFormula Int}
    {others : List (FlatFormula Int)}
    (parts : ∀ part ∈ first :: others, part.IsSumOfProducts ∧ part.BindsMoreTightly operator)
    {value : Int}
    {words : List Int64}
    (firstComes : ComesTo first value)
    (othersCome : List.Forall₂ ComesTo others (words.map Int64.toInt))
    (unfit : ¬ Operator.PartialTotalsFit (total value) words) :
    HasOverflowingStretch (glueAll operator first others) := by
  simp only [Operator.PartialTotalsFit, not_forall] at unfit
  obtain ⟨begun, isPrefix, tooLarge⟩ := unfit
  have isBegun : words.take begun.length = begun := (List.prefix_iff_eq_take.mp isPrefix).symm
  have begunComes :
      List.Forall₂ ComesTo (others.take begun.length) (begun.map Int64.toInt) := by
    have taken := List.forall₂_take begun.length othersCome
    rwa [← List.map_take, isBegun] at taken
  have begunParts :
      ∀ part ∈ first :: others.take begun.length,
        part.IsSumOfProducts ∧ part.BindsMoreTightly operator := by
    intro part member
    rcases List.mem_cons.mp member with isFirst | inBegun
    · exact parts part (isFirst ▸ List.mem_cons_self ..)
    · exact parts part (List.mem_cons_of_mem _ (List.mem_of_mem_take inBegun))
  exact ⟨_, _, isStretch_glueAll_of_prefix operator first (List.take_prefix _ others),
    exact.glues begunParts firstComes begunComes, tooLarge⟩

/-- If its operands compute their formulas, then an operation computes the glued formula. -/
theorem reduce_operation_computes
    {operator : Operator}
    {total : Int → List Int → Int}
    (exact : IsExact operator total)
    {firstFormula : FlatFormula Int}
    {others : List (FlatFormula Int)}
    (parts :
      ∀ part ∈ firstFormula :: others, part.IsSumOfProducts ∧ part.BindsMoreTightly operator)
    {first : Expression}
    {rest : List Expression}
    (compute :
      List.Forall₂ (fun formula operand => ComputesOrOverflows formula (reduce resolve operand))
        (firstFormula :: others) (first :: rest)) :
    ComputesOrOverflows (glueAll operator firstFormula others)
      (reduce resolve (.operation operator first rest)) := by
  rcases reduceOperands_computes compute with
    ⟨words, come, operandsReduce⟩ | ⟨⟨formula, member, overflowing⟩, operandsOverflow⟩
  · cases words with
    | nil =>
        cases come
    | cons word words =>
        obtain ⟨firstComes, othersCome⟩ := List.forall₂_cons.mp come
        rw [reduce_operation_of_ok operandsReduce]
        by_cases fit : Operator.PartialTotalsFit (total word.toInt) words
        · obtain ⟨result, folds, isTotal⟩ := (exact.folds word words).succeeds_iff.mpr fit
          refine Or.inl ⟨result, ?_, by rw [folds]; rfl⟩
          rw [isTotal]
          exact exact.glues parts firstComes othersCome
        · have overflows := (exact.folds word words).overflows_iff.mpr fit
          refine Or.inr ⟨?_, by rw [overflows]; rfl⟩
          exact hasOverflowingStretch_of_not_fit exact parts firstComes othersCome fit
  · refine Or.inr ⟨overflowing.of_isStretch (isStretch_glueAll_of_mem member), ?_⟩
    exact reduce_operation_of_error operandsOverflow

/-! ## What grouping does -/

/--
However a formula of numbers is cut, its tree computes the value of the formula. The induction is on
the operators that are still looked for; each part between occurrences of one binds more tightly.
-/
theorem group_computes
    {α : Type}
    {leaf : α → Expression}
    {number : α → Int64}
    {looser order : List Operator}
    (whole : Operator.scanOrder = looser ++ order)
    {formula : FlatFormula α}
    (leaves :
      ∀ operand ∈ formula.operands,
        reduce resolve (leaf operand) = .ok (.constant (number operand)))
    (isSum : formula.IsSumOfProducts)
    (inOrder : ∀ operator ∈ formula.operators, operator ∈ order) :
    ComputesOrOverflows (formula.map fun operand => (number operand).toInt)
      (reduce resolve ((formula.map leaf).group order)) := by
  induction order generalizing looser formula with
  | nil =>
      have reduces := leaves formula.last formula.last_mem_operands
      rw [eq_single_of_forall_mem_nil inOrder]
      exact Or.inl ⟨number formula.last, comesTo_single _, reduces⟩
  | cons operator tighter inductionHypothesis =>
      have next : Operator.scanOrder = (looser ++ [operator]) ++ tighter := by
        simpa using whole
      by_cases present : operator ∈ formula.operators
      · have partsCompute :
            ∀ part ∈ formula.parts operator,
              ComputesOrOverflows (part.map fun operand => (number operand).toInt)
                (reduce resolve ((part.map leaf).group tighter)) := by
          intro part isPart
          apply inductionHypothesis next
          · exact fun operand inside => leaves operand (mem_operands_of_mem_parts isPart inside)
          · exact isSum.of_mem_parts isPart
          · exact forall_mem_tighter_of_mem_parts inOrder isPart
        obtain ⟨total, exact⟩ := exists_isExact (isSum operator present)
        have presentInLeaves : operator ∈ (formula.map leaf).operators := by
          rwa [operators_map]
        rw [group_cons_of_mem presentInLeaves,
          ← glueAll_cut operator (formula.map fun operand => (number operand).toInt)]
        apply reduce_operation_computes exact
        · change ∀ part ∈ parts operator _, _
          apply forall_mem_parts_bindMoreTightly whole (isSum.map _)
          rwa [operators_map]
        · change List.Forall₂ _ (parts operator _) ((parts operator _).map (group tighter))
          rw [parts_map, parts_map, List.map_map, List.forall₂_map_left_iff,
            List.forall₂_map_right_iff, List.forall₂_same]
          exact partsCompute
      · have absent : operator ∉ (formula.map leaf).operators := by
          rwa [operators_map]
        rw [group_cons_of_not_mem absent]
        exact inductionHypothesis next leaves isSum (forall_mem_tighter inOrder present)

/-- A stretch may overflow although the value of the formula fits. -/
example :
    let formula : FlatFormula Int64 := ⟨[(1, .plus), (Int64.minValue, .minus)], 1⟩
    reduce resolve ((formula.map .constant).group Operator.scanOrder) = .error .overflow :=
  rfl

/-! ## What texts of sums and products evaluate to -/

/-- A literal, or a name that the context binds to a constant, with the number that it stands for. -/
structure NumericAtom (context : Context) where
  text : List Char
  number : Int64
  standsFor :
    Formula.IsLiteral text number ∨
      Formula.IsName text ∧ context[String.ofList text]? = some (.constant number)

namespace NumericAtom

variable {context : Context}

/-- The atom of a text that reads as a number. -/
def ofLiteral
    (text : List Char)
    (number : Int64)
    (reads : Formula.literal? text = some number) : NumericAtom context :=
  ⟨text, number, Or.inl (Formula.literal?_eq_some_iff.mp reads)⟩

theorem isAtom
    (atom : NumericAtom context) :
    Formula.IsAtom atom.text (Formula.atomOf atom.text) := by
  rcases atom.standsFor with isLiteral | ⟨isName, _⟩
  · exact .of_exists ⟨_, .literal isLiteral⟩
  · exact .of_exists ⟨_, .name isName⟩

theorem evaluate_atomOf
    (atom : NumericAtom context) :
    evaluate context (Formula.atomOf atom.text) = .ok (.constant atom.number) := by
  rcases atom.standsFor with isLiteral | ⟨isName, binds⟩
  · rw [← (Formula.IsAtom.literal isLiteral).eq_atomOf]
    exact evaluate_eq_of_evaluates (.constant _)
  · rw [← (Formula.IsAtom.name isName).eq_atomOf]
    exact evaluate_eq_of_evaluates (.bound binds (.constant _))

end NumericAtom

/-- A text is parsed by grouping the atoms that it shows. -/
theorem NumericAtom.parse_of_shows
    {context : Context}
    {text : String}
    {formula : FlatFormula (NumericAtom context)}
    (shows : Formula.Shows text.toList (formula.map NumericAtom.text)) :
    Formula.parse text =
      .ok ((formula.map fun atom => Formula.atomOf atom.text).group Operator.scanOrder) := by
  have readable : Formula.IsReadable (formula.map NumericAtom.text) := by
    rw [Formula.IsReadable, operands_map, List.forall_mem_map]
    exact fun atom _ => ⟨_, atom.isAtom⟩
  rw [← map_map]
  exact Formula.parse_of_shows shows (Formula.related_isAtom_iff.mpr ⟨readable, rfl⟩)

/--
Numbers and names of numbers with additions, subtractions and multiplications between them have one
value by the usual rules. Their text is parsed, and evaluates to this value, or overflows.
-/
theorem sums_of_products_have_usual_value
    {context : Context}
    {text : String}
    {formula : FlatFormula (NumericAtom context)}
    (isSum : formula.IsSumOfProducts)
    (shows : Formula.Shows text.toList (formula.map NumericAtom.text)) :
    (∃! value, ComesTo (formula.map fun atom => atom.number.toInt) value) ∧
    ∃ expression,
      Formula.parse text = .ok expression ∧
      ComputesOrOverflows (formula.map fun atom => atom.number.toInt)
        (evaluate context expression) := by
  constructor
  · obtain ⟨value, comes⟩ := exists_comesTo (isSum.map fun atom => atom.number.toInt)
    exact ⟨value, comes, fun other comesToo => comesToo.unique comes⟩
  · refine ⟨_, NumericAtom.parse_of_shows shows, ?_⟩
    apply group_computes (List.nil_append Operator.scanOrder).symm _ isSum
    · exact fun operator _ => Operator.mem_scanOrder operator
    · exact fun atom _ => atom.evaluate_atomOf

/-- A name that is bound to a number. -/
def boundCell : Context :=
  (∅ : Context).insert "A0" (.constant 4)

/-- A difference before a sum, in which a name is multiplied with a signed number. -/
def differenceAndSum : FlatFormula (NumericAtom boundCell) :=
  have isName : Formula.IsName ['A', '0'] :=
    Formula.isName_of_isAlphanum (by decide) (by decide) (by decide)
  ⟨[(.ofLiteral ['7'] 7 (by decide), .minus), (.ofLiteral ['2'] 2 (by decide), .plus),
      (⟨['A', '0'], 4, Or.inr ⟨isName, by decide⟩⟩, .times),
      (.ofLiteral ['-', '3'] (-3) (by decide), .minus)],
    .ofLiteral ['1'] 1 (by decide)⟩

theorem differenceAndSum_comes_to_minus_eight :
    differenceAndSum.IsSumOfProducts ∧
      Formula.Shows "7-2 + A0*-3 - 1".toList (differenceAndSum.map NumericAtom.text) ∧
      ComesTo (differenceAndSum.map fun atom => atom.number.toInt) (-8) ∧
      ∃ expression,
        Formula.parse "7-2 + A0*-3 - 1" = .ok expression ∧
          evaluate boundCell expression = .ok (.constant (-8)) := by
  have isSum : differenceAndSum.IsSumOfProducts := by
    decide
  have nothing : Text.IsBlankText [] := List.all_eq_true.mp (by decide)
  have space : Text.IsBlankText [' '] := List.all_eq_true.mp (by decide)
  have written :=
    Formula.Shows.cons ['7'] .minus nothing nothing
      (.cons ['2'] .plus nothing space
        (.cons ['A', '0'] .times space nothing
          (.cons ['-', '3'] .minus nothing space
            (.single ['1'] space nothing))))
  have shows :
      Formula.Shows "7-2 + A0*-3 - 1".toList (differenceAndSum.map NumericAtom.text) :=
    written
  obtain ⟨_, expression, parsed, computes⟩ := sums_of_products_have_usual_value isSum shows
  have regrouped := Except.ok.inj ((NumericAtom.parse_of_shows shows).symm.trans parsed)
  have evaluates : evaluate boundCell expression = .ok (.constant (-8)) := by
    rw [← regrouped]
    decide
  refine ⟨isSum, shows, ?_, expression, parsed, evaluates⟩
  rcases computes with ⟨word, wordComes, found⟩ | ⟨_, overflows⟩
  · rw [evaluates] at found
    cases found
    exact wordComes
  · rw [evaluates] at overflows
    contradiction

end Expression

end Spreadsheet
