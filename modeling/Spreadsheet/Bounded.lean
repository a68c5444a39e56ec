namespace Spreadsheet.Bounded

/-!
# Integers that fit a machine word

Cell values are signed and row and column numbers unsigned integers of 64 bits. A number
that does not fit is refused and never wrapped.
-/

/-- The value as a signed 64-bit integer, if it fits one. -/
def int64? (value : Int) : Option Int64 :=
  if Int64.minValue.toInt ≤ value ∧ value ≤ Int64.maxValue.toInt then
    some (Int64.ofInt value)
  else
    none

/-- The value as an unsigned 64-bit integer, if it fits one. -/
def uint64? (value : Nat) : Option UInt64 :=
  if fits : value < UInt64.size then
    some (UInt64.ofNatLT value fits)
  else
    none

theorem toInt_of_int64?_eq_some
    {value : Int}
    {word : Int64}
    (fits : int64? value = some word) :
    word.toInt = value := by
  unfold int64? at fits
  split at fits
  · rename_i bounds
    rw [← Option.some.inj fits]
    exact Int64.toInt_ofInt_of_le bounds.1 (Int.lt_of_le_of_lt bounds.2 (by decide))
  · contradiction

theorem int64?_toInt
    (word : Int64) :
    int64? word.toInt = some word := by
  have bounds : Int64.minValue.toInt ≤ word.toInt ∧ word.toInt ≤ Int64.maxValue.toInt :=
    ⟨word.minValue_le_toInt, word.toInt_le⟩
  rw [int64?, if_pos bounds, Int64.ofInt_toInt]

theorem toNat_of_uint64?_eq_some
    {value : Nat}
    {word : UInt64}
    (fits : uint64? value = some word) :
    word.toNat = value := by
  unfold uint64? at fits
  split at fits
  · rw [← Option.some.inj fits, UInt64.toNat_ofNatLT]
  · contradiction

theorem uint64?_toNat
    (word : UInt64) :
    uint64? word.toNat = some word := by
  simp [uint64?, word.toNat_lt_size]

end Spreadsheet.Bounded
