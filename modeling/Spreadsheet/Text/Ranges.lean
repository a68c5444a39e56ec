namespace Spreadsheet.Text

/-!
# Classes of characters as sorted ranges of code points

A class of characters is written as a list of ranges in ascending order, both ends included.
The search stops at the first range that begins above the code point.
-/

/-- The code point lies in one of the ranges, which stand in ascending order. -/
def inRanges : List (Nat × Nat) → Nat → Bool
  | [], _ => false
  | (lowest, highest) :: later, code =>
    if code < lowest then false
    else code ≤ highest || inRanges later code

/-- The ranges hold something each, and begin above the given code point and above one another. -/
def areAscendingFrom : Nat → List (Nat × Nat) → Bool
  | _, [] => true
  | bound, (lowest, highest) :: later =>
    bound ≤ lowest && lowest ≤ highest && areAscendingFrom (highest + 1) later

theorem le_of_mem_of_areAscendingFrom
    {bound : Nat}
    {ranges : List (Nat × Nat)}
    {range : Nat × Nat}
    (ascending : areAscendingFrom bound ranges = true)
    (member : range ∈ ranges) :
    bound ≤ range.1 := by
  induction ranges generalizing bound with
  | nil => contradiction
  | cons first later inductionHypothesis =>
    obtain ⟨lowest, highest⟩ := first
    simp only [areAscendingFrom, Bool.and_eq_true, decide_eq_true_eq] at ascending
    obtain ⟨⟨boundLe, lowestLe⟩, laterAscending⟩ := ascending
    cases List.mem_cons.mp member with
    | inl same => exact same ▸ boundLe
    | inr inLater =>
      have highestLt := inductionHypothesis laterAscending inLater
      omega

/-- Among ascending ranges the search finds every code point that lies in one of them. -/
theorem inRanges_of_mem
    {bound code : Nat}
    {ranges : List (Nat × Nat)}
    {range : Nat × Nat}
    (ascending : areAscendingFrom bound ranges = true)
    (member : range ∈ ranges)
    (lowestLe : range.1 ≤ code)
    (leHighest : code ≤ range.2) :
    inRanges ranges code = true := by
  induction ranges generalizing bound with
  | nil => contradiction
  | cons first later inductionHypothesis =>
    obtain ⟨lowest, highest⟩ := first
    simp only [areAscendingFrom, Bool.and_eq_true, decide_eq_true_eq] at ascending
    obtain ⟨⟨_, firstNonempty⟩, laterAscending⟩ := ascending
    cases List.mem_cons.mp member with
    | inl same =>
      subst same
      have notBelow : ¬ code < lowest := Nat.not_lt.mpr lowestLe
      simp [inRanges, notBelow, leHighest]
    | inr inLater =>
      have highestLt := le_of_mem_of_areAscendingFrom laterAscending inLater
      have notBelow : ¬ code < lowest := by omega
      simp [inRanges, notBelow, inductionHypothesis laterAscending inLater]

end Spreadsheet.Text
