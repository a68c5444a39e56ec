import Spreadsheet.Proofs.Operator.Fold

namespace Spreadsheet.Operator

/-!
# Dividing by several numbers

Dividing by one number after another, each time truncating toward zero, is one truncating division
by the exact product. A zero among the divisors makes it fail. It overflows only where the least
number is divided by minus one, and then no number other than one has been divided by before.
-/

/-! ## Quotients of integers -/

/-- Two truncating divisions are one by the product, whatever the signs are. -/
theorem tdiv_tdiv
    (dividend first second : Int) :
    (dividend.tdiv first).tdiv second = dividend.tdiv (first * second) := by
  obtain ⟨dividend, rfl | rfl⟩ := dividend.eq_nat_or_neg <;>
  obtain ⟨first, rfl | rfl⟩ := first.eq_nat_or_neg <;>
  obtain ⟨second, rfl | rfl⟩ := second.eq_nat_or_neg <;>
  simp only [Int.neg_tdiv, Int.tdiv_neg, Int.mul_neg, Int.neg_mul, Int.neg_neg,
    ← Int.natCast_mul, ← Int.ofNat_tdiv, Nat.div_div_eq_div_mul]

/-- Dividing by other numbers than one and minus one at least halves a number. -/
theorem natAbs_tdiv_le_half
    {dividend divisor : Int}
    (fits : Bounded.FitsInt64 dividend)
    (notOne : divisor ≠ 1)
    (notMinusOne : divisor ≠ -1) :
    (dividend.tdiv divisor).natAbs ≤ 2 ^ 62 := by
  have magnitude : dividend.natAbs ≤ 2 ^ 63 := by
    obtain ⟨least, greatest⟩ := fits
    omega
  have quotient : (dividend.tdiv divisor).natAbs = dividend.natAbs / divisor.natAbs :=
    Int.natAbs_tdiv dividend divisor
  rw [quotient]
  by_cases isZero : divisor = 0
  · simp [isZero]
  · have atLeastTwo : 2 ≤ divisor.natAbs := by omega
    calc dividend.natAbs / divisor.natAbs
        ≤ dividend.natAbs / 2 := Nat.div_le_div_left atLeastTwo (by decide)
      _ ≤ 2 ^ 63 / 2 := Nat.div_le_div_right magnitude
      _ = 2 ^ 62 := by decide

/-- A quotient is the least number only if nothing has been divided. -/
theorem eq_one_of_tdiv_eq_least
    {dividend divisor : Int}
    (fits : Bounded.FitsInt64 dividend)
    (isLeast : dividend.tdiv divisor = -(2 ^ 63)) :
    divisor = 1 := by
  by_contra notOne
  by_cases isMinusOne : divisor = -1
  · rw [isMinusOne, Int.tdiv_neg, Int.tdiv_one] at isLeast
    obtain ⟨_, greatest⟩ := fits
    omega
  · have half := natAbs_tdiv_le_half fits notOne isMinusOne
    omega

/-- A quotient fits 64 bits, unless it is that of the least number and minus one. -/
theorem fitsInt64_tdiv_iff
    {dividend divisor : Int}
    (fits : Bounded.FitsInt64 dividend) :
    Bounded.FitsInt64 (dividend.tdiv divisor) ↔
      ¬ (dividend = -(2 ^ 63) ∧ divisor = -1) := by
  by_cases isOne : divisor = 1
  · simp [isOne, fits]
  by_cases isMinusOne : divisor = -1
  · rw [isMinusOne, Int.tdiv_neg, Int.tdiv_one, Bounded.FitsInt64]
    obtain ⟨least, greatest⟩ := fits
    omega
  · have half := natAbs_tdiv_le_half fits isOne isMinusOne
    rw [Bounded.FitsInt64]
    omega

/-! ## One division -/

theorem toInt_eq_least_iff
    {number : Int64} :
    number.toInt = -(2 ^ 63) ↔ number = Int64.minValue :=
  Int64.toInt_inj (y := Int64.minValue)

theorem quotient_zero
    (dividend : Int64) :
    quotient dividend 0 = .error .divisionByZero := by
  rw [quotient, if_pos rfl]

theorem quotient_least_minus_one :
    quotient Int64.minValue (-1) = .error .overflow := by
  decide

/-- Any other quotient is the exact one, truncated toward zero. -/
theorem exists_quotient
    {dividend divisor : Int64}
    (notZero : divisor ≠ 0)
    (notLeast : ¬ (dividend = Int64.minValue ∧ divisor = -1)) :
    ∃ word,
      quotient dividend divisor = .ok word ∧
        word.toInt = dividend.toInt.tdiv divisor.toInt := by
  have minusOne : divisor.toInt = -1 ↔ divisor = -1 := Int64.toInt_inj (y := -1)
  have fits : Bounded.FitsInt64 (dividend.toInt.tdiv divisor.toInt) := by
    rw [fitsInt64_tdiv_iff (Bounded.fitsInt64_toInt dividend), minusOne, toInt_eq_least_iff]
    exact notLeast
  rw [quotient, if_neg notZero]
  exact checked_of_fits fits

/-! ## A chain of divisions -/

/-- The least number is divided by minus one before it is divided by anything other than one. -/
def NegatesLeast
    (dividend : Int64)
    (divisors : List Int64) : Prop :=
  dividend = Int64.minValue ∧ divisors.find? (· != 1) = some (-1)

/-- A division that succeeds leaves the least number only if it was there and divided by one. -/
theorem negatesLeast_cons_iff
    {dividend divisor next : Int64}
    (notLeast : ¬ (dividend = Int64.minValue ∧ divisor = -1))
    (isNext : next.toInt = dividend.toInt.tdiv divisor.toInt)
    (later : List Int64) :
    NegatesLeast dividend (divisor :: later) ↔ NegatesLeast next later := by
  have one : divisor.toInt = 1 ↔ divisor = 1 := Int64.toInt_inj (y := 1)
  by_cases isOne : divisor = 1
  · have same : next = dividend := by
      rw [one.mpr isOne, Int.tdiv_one] at isNext
      exact Int64.toInt_inj.mp isNext
    rw [NegatesLeast, NegatesLeast, same, isOne]
    simp
  · have nextNotLeast : next ≠ Int64.minValue := by
      intro isLeast
      rw [toInt_eq_least_iff.mpr isLeast] at isNext
      exact isOne (one.mp
        (eq_one_of_tdiv_eq_least (Bounded.fitsInt64_toInt dividend) isNext.symm))
    have found : (divisor :: later).find? (· != 1) = some divisor :=
      List.find?_cons_of_pos (by simpa using isOne)
    rw [NegatesLeast, NegatesLeast, found, Option.some.injEq]
    exact iff_of_false notLeast fun negates => nextNotLeast negates.1

/-- What comes of a chain of divisions: an overflow, a division by zero, or the exact quotient. -/
theorem fold_divide_cases
    (dividend : Int64)
    (divisors : List Int64) :
    (NegatesLeast dividend divisors ∧
      fold .divide dividend divisors = .error .overflow) ∨
    (¬ NegatesLeast dividend divisors ∧ 0 ∈ divisors ∧
      fold .divide dividend divisors = .error .divisionByZero) ∨
    (¬ NegatesLeast dividend divisors ∧ 0 ∉ divisors ∧
      ∃ word,
        fold .divide dividend divisors = .ok word ∧
          word.toInt = dividend.toInt.tdiv (divisors.map Int64.toInt).prod) := by
  induction divisors generalizing dividend with
  | nil =>
      refine Or.inr (Or.inr ⟨?_, List.not_mem_nil, dividend, rfl, ?_⟩)
      · simp [NegatesLeast]
      · simp
  | cons divisor later inductionHypothesis =>
      have step :
          fold .divide dividend (divisor :: later) =
            quotient dividend divisor >>= fun next => fold .divide next later :=
        List.foldlM_cons
      by_cases isZero : divisor = 0
      · subst isZero
        refine Or.inr (Or.inl ⟨?_, List.mem_cons_self .., ?_⟩)
        · rintro ⟨_, found⟩
          simp at found
        · rw [step, quotient_zero]
          rfl
      by_cases isLeast : dividend = Int64.minValue ∧ divisor = -1
      · obtain ⟨rfl, rfl⟩ := isLeast
        refine Or.inl ⟨⟨rfl, rfl⟩, ?_⟩
        rw [step, quotient_least_minus_one]
        rfl
      · obtain ⟨next, isQuotient, isNext⟩ := exists_quotient isZero isLeast
        have sameMember : 0 ∈ divisor :: later ↔ 0 ∈ later := by
          simp [Ne.symm isZero]
        have sameQuotient :
            next.toInt.tdiv (later.map Int64.toInt).prod =
              dividend.toInt.tdiv ((divisor :: later).map Int64.toInt).prod := by
          rw [isNext, tdiv_tdiv, List.map_cons, List.prod_cons]
        rw [step, isQuotient, negatesLeast_cons_iff isLeast isNext, sameMember, ← sameQuotient]
        exact inductionHypothesis next

/--
Dividing by several numbers is one division by their exact product, truncated toward zero. It
overflows exactly if the least number is negated, fails otherwise exactly if a divisor is zero, and
gives the exact quotient in all other cases.
-/
theorem fold_divide_is_one_quotient
    (dividend : Int64)
    (divisors : List Int64) :
    (fold .divide dividend divisors = .error .overflow ↔
      NegatesLeast dividend divisors) ∧
    (fold .divide dividend divisors = .error .divisionByZero ↔
      ¬ NegatesLeast dividend divisors ∧ 0 ∈ divisors) ∧
    ((∃ word,
        fold .divide dividend divisors = .ok word ∧
          word.toInt = dividend.toInt.tdiv (divisors.map Int64.toInt).prod) ↔
      ¬ NegatesLeast dividend divisors ∧ 0 ∉ divisors) := by
  rcases fold_divide_cases dividend divisors with
    ⟨negates, overflows⟩ | ⟨doesNot, hasZero, fails⟩ | ⟨doesNot, noZero, word, divides, isResult⟩
  · simp [negates, overflows]
  · simp [doesNot, hasZero, fails]
  · simp [doesNot, noZero, divides, isResult]

-- The overflow comes before the zero, which a one in front of it does not change.
example : fold .divide Int64.minValue [1, -1, 0] = .error .overflow := by decide

end Spreadsheet.Operator
