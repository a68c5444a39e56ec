namespace Spreadsheet.Decimal

/-!
# Decimal numerals

A natural number is written in ASCII digits without leading zeros, an integer with a minus sign in
front when it is negative. Reading is more liberal: leading zeros are allowed, and an integer may
carry either sign. What is written reads back.
-/

/-- The number that a nonempty run of ASCII digits stands for. -/
def natural? (text : List Char) : Option Nat :=
  if text ≠ [] ∧ text.all Char.isDigit then
    some (Nat.ofDigitChars 10 text 0)
  else
    none

/-- The number that a run of ASCII digits with at most one sign in front stands for. -/
def integer? (text : List Char) : Option Int :=
  match text with
  | '-' :: digits => (natural? digits).map fun magnitude : Nat => -(magnitude : Int)
  | '+' :: digits => (natural? digits).map fun magnitude : Nat => (magnitude : Int)
  | digits => (natural? digits).map fun magnitude : Nat => (magnitude : Int)

/-- The digits of a natural number. -/
def writeNatural (value : Nat) : List Char :=
  Nat.toDigits 10 value

/-- The digits of an integer, after a minus sign when it is negative. -/
def writeInteger (value : Int) : List Char :=
  if value < 0 then
    '-' :: writeNatural value.natAbs
  else
    writeNatural value.natAbs

theorem isDigit_of_mem_writeNatural
    {value : Nat}
    {character : Char}
    (member : character ∈ writeNatural value) :
    character.isDigit = true :=
  Nat.isDigit_of_mem_toDigits (by decide) (by decide) member

theorem natural?_writeNatural
    (value : Nat) :
    natural? (writeNatural value) = some value := by
  have digits : (writeNatural value).all Char.isDigit = true :=
    List.all_eq_true.mpr fun _ member => isDigit_of_mem_writeNatural member
  have nonempty : writeNatural value ≠ [] := Nat.toDigits_ne_nil
  simp [natural?, digits, nonempty]
  simp [writeNatural]

theorem integer?_writeNatural
    (value : Nat) :
    integer? (writeNatural value) = some (value : Int) := by
  have digits : ∀ character ∈ writeNatural value, character.isDigit :=
    fun _ member => isDigit_of_mem_writeNatural member
  unfold integer?
  split
  · rename_i shape
    exact absurd (digits '-' (by simp [shape])) (by decide)
  · rename_i shape
    exact absurd (digits '+' (by simp [shape])) (by decide)
  · simp [natural?_writeNatural]

theorem integer?_writeInteger
    (value : Int) :
    integer? (writeInteger value) = some value := by
  unfold writeInteger
  split
  · rename_i negative
    have magnitude : -(value.natAbs : Int) = value := by omega
    rw [integer?, natural?_writeNatural, Option.map_some, magnitude]
  · rename_i nonnegative
    rw [integer?_writeNatural, Option.some.injEq]
    omega

end Spreadsheet.Decimal
