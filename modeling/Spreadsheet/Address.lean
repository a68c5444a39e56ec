import Spreadsheet.Bounded
import Spreadsheet.Decimal

namespace Spreadsheet

/-!
# Addresses of cells

An address is a column letter from A to Z followed by a row number, counted from zero. Reading
allows leading zeros in the row number; writing has none. Addresses are ordered by row, then by
column.
-/

/-- Columns are named by the letters A to Z. -/
def columnLimit : Nat := 26

theorem zero_lt_columnLimit : 0 < columnLimit := by
  decide

theorem one_lt_columnLimit : 1 < columnLimit := by
  decide

/-- The place of a cell in a sheet. -/
structure Address where
  row : UInt64
  column : Fin columnLimit
  deriving Repr, DecidableEq

/-- The letter of a column. -/
def columnLetter (column : Fin columnLimit) : Char :=
  Char.ofNat ('A'.toNat + column)

/-- The letter of a column, for columns that have one. -/
def columnLetter? (column : UInt64) : Option Char :=
  if named : column.toNat < columnLimit then
    some (columnLetter ⟨column.toNat, named⟩)
  else
    none

/-- The column that a letter names. -/
def columnOfLetter? (letter : Char) : Option (Fin columnLimit) :=
  if named : 'A' ≤ letter ∧ letter ≤ 'Z' then
    some ⟨letter.toNat - 'A'.toNat, by
      have atMost : letter.toNat ≤ 'Z'.toNat := named.2
      have bound : 'Z'.toNat - 'A'.toNat < columnLimit := by decide
      omega⟩
  else
    none

theorem columnOfLetter?_columnLetter
    (column : Fin columnLimit) :
    columnOfLetter? (columnLetter column) = some column := by
  revert column
  decide

theorem columnLetter_of_columnOfLetter?_eq_some
    {letter : Char}
    {column : Fin columnLimit}
    (named : columnOfLetter? letter = some column) :
    columnLetter column = letter := by
  unfold columnOfLetter? at named
  split at named
  · rename_i bounds
    have atLeast : 'A'.toNat ≤ letter.toNat := bounds.1
    rw [← Option.some.inj named]
    simp only [columnLetter]
    rw [Nat.add_sub_cancel' atLeast, Char.ofNat_toNat]
  · contradiction

namespace Address

/-- Addresses are ordered by row, then by column. -/
instance : Ord Address where
  compare := compareLex (compareOn Address.row) (compareOn Address.column)

instance : Std.TransOrd Address :=
  inferInstanceAs (Std.TransCmp (compareLex (compareOn Address.row) (compareOn Address.column)))

instance : Std.LawfulEqOrd Address where
  eq_of_compare := by
    intro first second same
    obtain ⟨sameRow, sameColumn⟩ := Ordering.then_eq_eq.mp same
    obtain ⟨firstRow, firstColumn⟩ := first
    obtain ⟨secondRow, secondColumn⟩ := second
    have equalRows : firstRow = secondRow := Std.LawfulEqOrd.eq_of_compare sameRow
    have equalColumns : firstColumn = secondColumn := Std.LawfulEqOrd.eq_of_compare sameColumn
    rw [equalRows, equalColumns]

/-- The address of a row and a column, for columns that have a letter. -/
def ofIndices? (row column : UInt64) : Option Address :=
  if named : column.toNat < columnLimit then
    some ⟨row, ⟨column.toNat, named⟩⟩
  else
    none

/-- The address of a row and a column letter. -/
def ofLetter? (row : UInt64) (letter : Char) : Option Address :=
  (columnOfLetter? letter).map fun column => ⟨row, column⟩

/-- The number of the address's column. -/
def columnNumber (address : Address) : UInt64 :=
  UInt64.ofNat address.column

/-- The characters of the address's text. -/
def characters (address : Address) : List Char :=
  columnLetter address.column :: Decimal.writeNatural address.row.toNat

/-- The text of the address. -/
def text (address : Address) : String :=
  String.ofList address.characters

/-- The address that some characters write. -/
def ofCharacters? : List Char → Option Address
  | [] => none
  | letter :: digits => do
    let column ← columnOfLetter? letter
    let row ← (Decimal.natural? digits).bind Bounded.uint64?
    return ⟨row, column⟩

/-- The address that a text writes. -/
def ofText? (text : String) : Option Address :=
  ofCharacters? text.toList

theorem ofCharacters?_characters
    (address : Address) :
    ofCharacters? address.characters = some address := by
  simp [ofCharacters?, characters, columnOfLetter?_columnLetter,
    Decimal.natural?_writeNatural, Bounded.uint64?_toNat]

theorem ofText?_text
    (address : Address) :
    ofText? address.text = some address := by
  rw [ofText?, text, String.toList_ofList, ofCharacters?_characters]

/-- Different addresses have different texts. -/
theorem text_injective
    {first second : Address}
    (same : first.text = second.text) :
    first = second := by
  have read : ofText? first.text = ofText? second.text := by rw [same]
  simpa [ofText?_text] using read

theorem ofIndices?_columnNumber
    (address : Address) :
    ofIndices? address.row address.columnNumber = some address := by
  have inRange : address.column.val < UInt64.size :=
    Nat.lt_trans address.column.isLt (by decide)
  have sameColumn : address.columnNumber.toNat = address.column.val :=
    UInt64.toNat_ofNat_of_lt' inRange
  simp [ofIndices?, sameColumn]

theorem of_ofIndices?_eq_some
    {row column : UInt64}
    {address : Address}
    (named : ofIndices? row column = some address) :
    address.row = row ∧ address.columnNumber = column := by
  unfold ofIndices? at named
  split at named
  · rw [← Option.some.inj named]
    exact ⟨rfl, UInt64.ofNat_toNat⟩
  · contradiction

end Address

end Spreadsheet
