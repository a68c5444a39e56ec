import Spreadsheet.Operator.Fold
import Mathlib

namespace Spreadsheet

/-!
# Folding numbers exactly

Sums, differences and products of 64-bit numbers are computed from left to right and must fit after
each step. This module compares them with what unbounded integers give: the result is the exact one
if the exact results of all beginnings of the list fit, and an overflow otherwise. The comparisons
look at neighbours or at the first number only, and still answer for all pairs of numbers.
-/

/-- The integer lies in the range of signed 64-bit numbers. -/
def Bounded.FitsInt64 (value : Int) : Prop :=
  -(2 ^ 63) ≤ value ∧ value < 2 ^ 63

theorem Bounded.fitsInt64_iff
    {value : Int} :
    FitsInt64 value ↔ Int64.minValue.toInt ≤ value ∧ value ≤ Int64.maxValue.toInt := by
  have least : Int64.minValue.toInt = -(2 ^ 63) := rfl
  have greatest : Int64.maxValue.toInt = 2 ^ 63 - 1 := rfl
  rw [FitsInt64, least, greatest, Int.le_sub_one_iff]

theorem Bounded.fitsInt64_toInt
    (word : Int64) :
    FitsInt64 word.toInt :=
  fitsInt64_iff.mpr ⟨word.minValue_le_toInt, word.toInt_le⟩

namespace Operator

/-- A number that fits is kept. -/
theorem checked_of_fits
    {value : Int}
    (fits : Bounded.FitsInt64 value) :
    ∃ word, checked value = .ok word ∧ word.toInt = value := by
  have found : Bounded.int64? value = some (Int64.ofInt value) :=
    if_pos (Bounded.fitsInt64_iff.mp fits)
  refine ⟨Int64.ofInt value, ?_, Bounded.toInt_of_int64?_eq_some found⟩
  rw [checked, found]

/-- A number that does not fit is an overflow. -/
theorem checked_of_not_fits
    {value : Int}
    (tooLarge : ¬ Bounded.FitsInt64 value) :
    checked value = .error .overflow := by
  have nothing : Bounded.int64? value = none :=
    if_neg (mt Bounded.fitsInt64_iff.mpr tooLarge)
  rw [checked, nothing]

/-! ## Arithmetic -/

/-- The exact totals of all beginnings of a list fit 64 bits. -/
def PartialTotalsFit
    (total : List Int → Int)
    (values : List Int64) : Prop :=
  ∀ begun, begun <+: values → Bounded.FitsInt64 (total (begun.map Int64.toInt))

/-- Folding gives the exact total if all partial totals fit, and overflows otherwise. -/
structure FoldsExactly
    (operator : Operator)
    (first : Int64)
    (rest : List Int64)
    (total : List Int → Int) : Prop where
  succeeds_iff :
    (∃ word,
      operator.fold first rest = .ok word ∧ word.toInt = total (rest.map Int64.toInt)) ↔
        PartialTotalsFit total rest
  overflows_iff :
    operator.fold first rest = .error .overflow ↔ ¬ PartialTotalsFit total rest

/-- The partial totals are the first number and, if it has been added, those from there on. -/
theorem partialTotalsFit_cons_iff
    {step : Int → Int → Int}
    {first next : Int64}
    {value : Int64}
    (isNext : next.toInt = step first.toInt value.toInt)
    {later : List Int64} :
    PartialTotalsFit (fun values => values.foldl step first.toInt) (value :: later) ↔
      PartialTotalsFit (fun values => values.foldl step next.toInt) later := by
  constructor
  · intro fit begun isPrefix
    have fits := fit (value :: begun) ((List.prefix_cons_inj value).mpr isPrefix)
    simpa only [List.map_cons, List.foldl_cons, ← isNext] using fits
  · intro fit begun isPrefix
    rcases List.prefix_cons_iff.mp isPrefix with rfl | ⟨tail, rfl, isTail⟩
    · exact Bounded.fitsInt64_toInt first
    · simp only [List.map_cons, List.foldl_cons, ← isNext]
      exact fit tail isTail

/-- A chain of checked steps gives the exact total or overflows, as the partial totals decide. -/
theorem foldlM_checked_cases
    (step : Int → Int → Int)
    (first : Int64)
    (rest : List Int64) :
    (PartialTotalsFit (fun values => values.foldl step first.toInt) rest ∧
      ∃ word,
        rest.foldlM (fun total value => checked (step total.toInt value.toInt)) first =
            .ok word ∧
          word.toInt = (rest.map Int64.toInt).foldl step first.toInt) ∨
    (¬ PartialTotalsFit (fun values => values.foldl step first.toInt) rest ∧
      rest.foldlM (fun total value => checked (step total.toInt value.toInt)) first =
        .error .overflow) := by
  induction rest generalizing first with
  | nil =>
      refine Or.inl ⟨?_, first, rfl, rfl⟩
      intro begun isPrefix
      rw [List.prefix_nil.mp isPrefix]
      exact Bounded.fitsInt64_toInt first
  | cons value later inductionHypothesis =>
      rw [List.foldlM_cons]
      by_cases fits : Bounded.FitsInt64 (step first.toInt value.toInt)
      · obtain ⟨next, isChecked, isNext⟩ := checked_of_fits fits
        rw [isChecked, partialTotalsFit_cons_iff isNext, List.map_cons, List.foldl_cons, ← isNext]
        exact inductionHypothesis next
      · refine Or.inr ⟨?_, ?_⟩
        · intro fit
          exact fits (fit [value] (List.prefix_append [value] later))
        · rw [checked_of_not_fits fits]
          rfl

/-- An operator that folds by checked steps folds exactly. -/
theorem foldsExactly_of_steps
    (step : Int → Int → Int)
    {operator : Operator}
    {first : Int64}
    {rest : List Int64}
    {total : List Int → Int}
    (bySteps :
      operator.fold first rest =
        rest.foldlM (fun total value => checked (step total.toInt value.toInt)) first)
    (isTotal : ∀ values, values.foldl step first.toInt = total values) :
    FoldsExactly operator first rest total := by
  have cases := foldlM_checked_cases step first rest
  rw [← bySteps] at cases
  simp only [isTotal] at cases
  rcases cases with ⟨fit, word, folds, isResult⟩ | ⟨unfit, overflows⟩
  · exact
      { succeeds_iff := iff_of_true ⟨word, folds, isResult⟩ fit
        overflows_iff := iff_of_false (by simp [folds]) (not_not_intro fit) }
  · exact
      { succeeds_iff := iff_of_false (by simp [overflows]) unfit
        overflows_iff := iff_of_true overflows unfit }

/-- Adding is exact as long as all totals fit. -/
theorem foldsExactly_plus
    (first : Int64)
    (rest : List Int64) :
    FoldsExactly .plus first rest fun values => first.toInt + values.sum := by
  refine foldsExactly_of_steps (· + ·) rfl fun values => ?_
  rw [← List.sum_cons, List.sum_eq_foldl, List.foldl_cons, zero_add]

/-- Subtracting is exact as long as all totals fit. -/
theorem foldsExactly_minus
    (first : Int64)
    (rest : List Int64) :
    FoldsExactly .minus first rest fun values => first.toInt - values.sum := by
  refine foldsExactly_of_steps (· - ·) rfl fun values => ?_
  generalize first.toInt = total
  induction values generalizing total with
  | nil =>
      simp
  | cons value later inductionHypothesis =>
      rw [List.foldl_cons, inductionHypothesis, List.sum_cons, sub_sub]

/-- Multiplying is exact as long as all totals fit. -/
theorem foldsExactly_times
    (first : Int64)
    (rest : List Int64) :
    FoldsExactly .times first rest fun values => first.toInt * values.prod := by
  refine foldsExactly_of_steps (· * ·) rfl fun values => ?_
  rw [← List.prod_cons, List.prod_eq_foldl, List.foldl_cons, one_mul]

/-! ## Comparisons -/

/-- If neighbours increase, then so do all pairs of numbers. -/
theorem isIncreasing_iff_pairwise
    {first : Int64}
    {rest : List Int64} :
    isIncreasing first rest = true ↔
      (first :: rest).Pairwise fun earlier later => earlier.toInt < later.toInt := by
  have neighbours :
      isIncreasing first rest = true ↔
        (first :: rest).IsChain fun earlier later => earlier.toInt < later.toInt := by
    induction rest generalizing first with
    | nil =>
        simp [isIncreasing]
    | cons second rest inductionHypothesis =>
        rw [isIncreasing, Bool.and_eq_true, decide_eq_true_eq, inductionHypothesis,
          List.isChain_cons_cons, Int64.lt_iff_toInt_lt]
  have transitive : IsTrans Int64 fun earlier later => earlier.toInt < later.toInt :=
    ⟨fun _ _ _ => Int.lt_trans⟩
  rw [neighbours, List.isChain_iff_pairwise]

/-- If all numbers equal the first, then all pairs of numbers are equal. -/
theorem all_beq_iff_pairwise
    {first : Int64}
    {rest : List Int64} :
    rest.all (· == first) = true ↔
      (first :: rest).Pairwise fun earlier later => earlier.toInt = later.toInt := by
  simp only [List.all_eq_true, beq_iff_eq, Int64.toInt_inj]
  constructor
  · intro same
    have allFirst : ∀ value ∈ first :: rest, value = first :=
      List.forall_mem_cons.mpr ⟨rfl, same⟩
    apply List.pairwise_of_forall_mem_list
    intro earlier isEarlier later isLater
    rw [allFirst earlier isEarlier, allFirst later isLater]
  · intro pairwise value member
    exact (List.rel_of_pairwise_cons pairwise member).symm

/-- Numbers are ascending if each is less than all later ones. -/
theorem fold_less_eq
    (first : Int64)
    (rest : List Int64) :
    fold .less first rest =
      .ok (if (first :: rest).Pairwise fun earlier later => earlier.toInt < later.toInt
        then 1 else 0) := by
  simp only [fold, answer, isIncreasing_iff_pairwise]

/-- Numbers are equal if each is equal to all later ones. -/
theorem fold_equal_eq
    (first : Int64)
    (rest : List Int64) :
    fold .equal first rest =
      .ok (if (first :: rest).Pairwise fun earlier later => earlier.toInt = later.toInt
        then 1 else 0) := by
  simp only [fold, answer, all_beq_iff_pairwise]

/-! ## Agreement with integers -/

/--
Folding agrees with unbounded integers. Sums, differences and products are exact if all partial
totals fit 64 bits, and overflow otherwise; the comparisons never fail, and answer 1 exactly if all
pairs of numbers are in order, or equal.
-/
theorem fold_agrees_with_integers
    (first : Int64)
    (rest : List Int64) :
    FoldsExactly .plus first rest (fun values => first.toInt + values.sum) ∧
    FoldsExactly .minus first rest (fun values => first.toInt - values.sum) ∧
    FoldsExactly .times first rest (fun values => first.toInt * values.prod) ∧
    fold .less first rest =
      .ok (if (first :: rest).Pairwise fun earlier later => earlier.toInt < later.toInt
        then 1 else 0) ∧
    fold .equal first rest =
      .ok (if (first :: rest).Pairwise fun earlier later => earlier.toInt = later.toInt
        then 1 else 0) :=
  ⟨foldsExactly_plus first rest, foldsExactly_minus first rest, foldsExactly_times first rest,
    fold_less_eq first rest, fold_equal_eq first rest⟩

-- The total would fit, but the first partial total does not.
example : fold .plus Int64.maxValue [1, -1] = .error .overflow := by decide

end Operator

end Spreadsheet
