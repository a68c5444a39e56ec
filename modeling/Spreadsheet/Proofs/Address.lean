import Spreadsheet.Address
import Spreadsheet.Proofs.Formula.Atom
import Mathlib.Algebra.Group.Nat.Defs

namespace Spreadsheet

/-!
# Reading and writing addresses

A text is read as an address exactly if it is a column letter followed by decimal digits of a number
that fits 64 bits. Writing an address and reading it gives the address again. Reading a text and
writing the address gives the text again only if there are no zeros in front of the row number.
-/

namespace Decimal

/-- A digit is the one that writes its value. -/
theorem digitChar_of_isDigit
    {digit : Char}
    (isDigit : digit.isDigit = true) :
    digit.toNat - '0'.toNat < 10 ∧ (digit.toNat - '0'.toNat).digitChar = digit := by
  obtain ⟨atLeast, atMost⟩ := Char.isDigit_iff_toNat.mp isDigit
  have zero : '0'.toNat = 48 := rfl
  have nine : '9'.toNat = 57 := rfl
  have small : digit.toNat - '0'.toNat < 10 := by omega
  refine ⟨small, Char.toNat_inj.mp ?_⟩
  rw [Nat.toNat_digitChar_of_lt_ten small]
  omega

/-- Digits that continue a positive number are written as they are read. -/
theorem writeNatural_ofDigitChars_of_pos
    {value : Nat}
    (positive : 0 < value)
    {digits : List Char}
    (allDigits : ∀ digit ∈ digits, digit.isDigit = true) :
    writeNatural (Nat.ofDigitChars 10 digits value) = writeNatural value ++ digits := by
  induction digits generalizing value with
  | nil =>
      simp
  | cons digit later inductionHypothesis =>
      obtain ⟨isDigit, laterDigits⟩ := List.forall_mem_cons.mp allDigits
      obtain ⟨small, same⟩ := digitChar_of_isDigit isDigit
      have written :
          writeNatural (10 * value + (digit.toNat - '0'.toNat)) = writeNatural value ++ [digit] := by
        rw [writeNatural, ← Nat.toDigits_append_toDigits (by decide) positive small,
          Nat.toDigits_of_lt_base small, same, writeNatural]
      rw [Nat.ofDigitChars_cons, inductionHypothesis (by omega) laterDigits, written,
        List.append_assoc, List.singleton_append]

/-- A positive number is written without a zero in front. -/
theorem head?_writeNatural_ne_zero
    {value : Nat}
    (positive : 0 < value) :
    (writeNatural value).head? ≠ some '0' := by
  induction value using Nat.strong_induction_on with
  | _ value inductionHypothesis =>
      by_cases small : value < 10
      · rw [writeNatural, Nat.toDigits_of_lt_base small]
        simp
        omega
      · have rest := inductionHypothesis (value / 10) (by omega) (by omega)
        rw [writeNatural, Nat.toDigits_of_base_le (by decide) (by omega),
          List.head?_append_of_ne_nil _ Nat.toDigits_ne_nil]
        exact rest

/-- Digits are those of the number that they write if they are a single zero or begin with no zero. -/
theorem writeNatural_ofDigitChars_eq_iff
    {digits : List Char}
    (nonempty : digits ≠ [])
    (allDigits : ∀ digit ∈ digits, digit.isDigit = true) :
    writeNatural (Nat.ofDigitChars 10 digits 0) = digits ↔
      digits = ['0'] ∨ digits.head? ≠ some '0' := by
  constructor
  · intro written
    by_cases positive : 0 < Nat.ofDigitChars 10 digits 0
    · have noZero := head?_writeNatural_ne_zero positive
      rw [written] at noZero
      exact Or.inr noZero
    · have isZero : Nat.ofDigitChars 10 digits 0 = 0 := by omega
      rw [isZero] at written
      exact Or.inl written.symm
  · rintro (rfl | noZero)
    · rfl
    · cases digits with
      | nil =>
          contradiction
      | cons digit later =>
          obtain ⟨isDigit, laterDigits⟩ := List.forall_mem_cons.mp allDigits
          obtain ⟨small, same⟩ := digitChar_of_isDigit isDigit
          have positive : 0 < digit.toNat - '0'.toNat := by
            refine Nat.pos_of_ne_zero fun isZero => noZero ?_
            rw [isZero] at same
            rw [← same]
            rfl
          rw [Nat.ofDigitChars_cons, Nat.mul_zero, Nat.zero_add,
            writeNatural_ofDigitChars_of_pos positive laterDigits, writeNatural,
            Nat.toDigits_of_lt_base small, same, List.singleton_append]

end Decimal

/-- The letters from A to Z name the columns in their order. -/
theorem exists_columnOfLetter?
    {letter : Char}
    (isLetter : 'A' ≤ letter ∧ letter ≤ 'Z') :
    ∃ column, columnOfLetter? letter = some column ∧ column.val = letter.toNat - 'A'.toNat :=
  ⟨_, dif_pos isLetter, rfl⟩

namespace Address

/-- An address is spelled by the letter of its column and digits that write its row. -/
theorem ofText?_eq_some_iff
    {text : String}
    {address : Address} :
    ofText? text = some address ↔
      ∃ digits : List Char,
        text.toList = columnLetter address.column :: digits ∧
          Decimal.natural? digits = some address.row.toNat := by
  rw [ofText?]
  constructor
  · intro spelled
    cases shape : text.toList with
    | nil =>
        rw [shape] at spelled
        contradiction
    | cons letter digits =>
        simp only [shape, ofCharacters?, Option.bind_eq_bind, Option.bind_eq_some_iff] at spelled
        obtain ⟨column, isColumn, row, ⟨number, isNumber, fits⟩, same⟩ := spelled
        obtain rfl := Option.some.inj same
        refine ⟨digits, ?_, ?_⟩
        · rw [columnLetter_of_columnOfLetter?_eq_some isColumn]
        · rw [isNumber, Bounded.toNat_of_uint64?_eq_some fits]
  · rintro ⟨digits, shape, isNumber⟩
    simp [shape, ofCharacters?, columnOfLetter?_columnLetter, isNumber, Bounded.uint64?_toNat]

theorem isAlphanum_columnLetter
    (column : Fin columnLimit) :
    (columnLetter column).isAlphanum = true := by
  revert column
  decide

/-- The letter of a column does not begin a number. -/
theorem columnLetter_not_digit_or_sign
    (column : Fin columnLimit) :
    (columnLetter column).isDigit = false ∧
      columnLetter column ≠ '+' ∧ columnLetter column ≠ '-' := by
  revert column
  decide

/-- Every spelling of an address is a name that formulas can contain. -/
theorem isName_of_ofText?_eq_some
    {text : String}
    {address : Address}
    (spelled : ofText? text = some address) :
    Formula.IsName text.toList := by
  obtain ⟨digits, shape, isNumber⟩ := ofText?_eq_some_iff.mp spelled
  obtain ⟨_, allDigits, _⟩ := Decimal.natural?_eq_some_iff.mp isNumber
  obtain ⟨notDigit, notPlus, notMinus⟩ := columnLetter_not_digit_or_sign address.column
  rw [shape]
  refine ⟨List.cons_ne_nil _ _, ?_, ?_⟩
  · intro character member
    apply Text.isAlphanumeric_of_isAlphanum
    rcases List.mem_cons.mp member with rfl | inDigits
    · exact isAlphanum_columnLetter address.column
    · simp [Char.isAlphanum, allDigits character inDigits]
  · rintro value ⟨sign, magnitude, same, signs, nonempty, areDigits, _⟩
    rcases signs with rfl | rfl | rfl
    · have isHead : columnLetter address.column ∈ magnitude := by
        rw [List.nil_append] at same
        rw [← same]
        exact List.mem_cons_self ..
      rw [areDigits _ isHead] at notDigit
      contradiction
    · exact notPlus (List.cons.inj same).1
    · exact notMinus (List.cons.inj same).1

/--
The text is a letter from A to Z and then ASCII digits, of which there is at least one, that write a
number of at most 64 bits.
-/
structure Spells
    (text : String)
    (letter : Char)
    (digits : List Char) : Prop where
  shape : text.toList = letter :: digits
  isLetter : 'A' ≤ letter ∧ letter ≤ 'Z'
  nonempty : digits ≠ []
  areDigits : ∀ digit ∈ digits, digit.isDigit = true
  fits : Nat.ofDigitChars 10 digits 0 ≤ 2 ^ 64 - 1

/-- The text of an address spells it. -/
theorem spells_of_ofText?_eq_some
    {text : String}
    {address : Address}
    (read : ofText? text = some address) :
    ∃ digits, Spells text (columnLetter address.column) digits := by
  obtain ⟨digits, shape, isNumber⟩ := ofText?_eq_some_iff.mp read
  obtain ⟨nonempty, areDigits, isValue⟩ := Decimal.natural?_eq_some_iff.mp isNumber
  have inRange : ∀ column : Fin columnLimit,
      'A' ≤ columnLetter column ∧ columnLetter column ≤ 'Z' := by
    decide
  have bound := address.row.toNat_lt
  exact ⟨digits, shape, inRange address.column, nonempty, areDigits, by omega⟩

/-- What is spelled is read, as the column of the letter and the row of the digits. -/
theorem Spells.exists_address
    {text : String}
    {letter : Char}
    {digits : List Char}
    (spells : Spells text letter digits) :
    ∃ address,
      ofText? text = some address ∧
        address.column.val = letter.toNat - 'A'.toNat ∧
        address.row.toNat = Nat.ofDigitChars 10 digits 0 := by
  obtain ⟨column, isColumn, sameColumn⟩ := exists_columnOfLetter? spells.isLetter
  obtain ⟨row, sameRow⟩ : ∃ row : UInt64, row.toNat = Nat.ofDigitChars 10 digits 0 := by
    have fits : Nat.ofDigitChars 10 digits 0 < UInt64.size :=
      Nat.lt_of_le_pred (by decide) spells.fits
    exact ⟨.ofNatLT _ fits, UInt64.toNat_ofNatLT⟩
  refine ⟨⟨row, column⟩, ofText?_eq_some_iff.mpr ⟨digits, ?_, ?_⟩, sameColumn, sameRow⟩
  · rw [spells.shape, columnLetter_of_columnOfLetter?_eq_some isColumn]
  · exact Decimal.natural?_eq_some_iff.mpr ⟨spells.nonempty, spells.areDigits, sameRow⟩

/-- The text spells the address: the letter stands for its column, and the digits for its row. -/
def IsSpelledBy
    (address : Address)
    (text : String) : Prop :=
  ∃ letter digits,
    Spells text letter digits ∧
      address.column.val = letter.toNat - 'A'.toNat ∧
      address.row.toNat = Nat.ofDigitChars 10 digits 0

/-- An address is read from its spellings and from no other text. -/
theorem ofText?_eq_some_iff_isSpelledBy
    {text : String}
    {address : Address} :
    ofText? text = some address ↔ address.IsSpelledBy text := by
  constructor
  · intro read
    obtain ⟨digits, spells⟩ := spells_of_ofText?_eq_some read
    obtain ⟨other, otherRead, isColumn, isRow⟩ := spells.exists_address
    obtain rfl := Option.some.inj (read.symm.trans otherRead)
    exact ⟨_, digits, spells, isColumn, isRow⟩
  · rintro ⟨letter, digits, spells, isColumn, isRow⟩
    obtain ⟨⟨row, column⟩, read, otherColumn, otherRow⟩ := spells.exists_address
    have sameColumn : address.column = column := Fin.ext (isColumn.trans otherColumn.symm)
    have sameRow : address.row = row := UInt64.toNat_inj.mp (isRow.trans otherRow.symm)
    rw [read, ← sameColumn, ← sameRow]

/-- An address that has been read from a text is written in the same way, up to leading zeros. -/
theorem Spells.text_eq_iff
    {text : String}
    {letter : Char}
    {digits : List Char}
    (spells : Spells text letter digits)
    {address : Address}
    (read : ofText? text = some address) :
    address.text = text ↔ digits = ['0'] ∨ digits.head? ≠ some '0' := by
  obtain ⟨otherDigits, shape, isNumber⟩ := ofText?_eq_some_iff.mp read
  obtain ⟨rfl, rfl⟩ := List.cons.inj (shape.symm.trans spells.shape)
  obtain ⟨-, -, isValue⟩ := Decimal.natural?_eq_some_iff.mp isNumber
  rw [← Decimal.writeNatural_ofDigitChars_eq_iff spells.nonempty spells.areDigits, ← isValue,
    ← String.toList_inj, Address.text, String.toList_ofList, characters, shape]
  simp

/--
A text is read as an address exactly if it is a column letter and ASCII digits of a 64-bit number:
the letter gives the column and the number the row. An address is read back from its text, so
different addresses have different texts. A text is the text of the address that is read from it
exactly if its digits are a single zero or do not begin with a zero.
-/
theorem addresses_read_back :
    (∀ text,
      (∃ address, ofText? text = some address) ↔ ∃ letter digits, Spells text letter digits) ∧
    (∀ text letter digits,
      Spells text letter digits →
        ∃ address,
          ofText? text = some address ∧
            address.column.val = letter.toNat - 'A'.toNat ∧
            address.row.toNat = Nat.ofDigitChars 10 digits 0 ∧
            (address.text = text ↔ digits = ['0'] ∨ digits.head? ≠ some '0')) ∧
    (∀ address, ofText? address.text = some address) ∧
    Function.Injective Address.text := by
  refine ⟨?_, ?_, ofText?_text, fun _ _ => text_injective⟩
  · intro text
    constructor
    · rintro ⟨address, read⟩
      exact ⟨_, spells_of_ofText?_eq_some read⟩
    · rintro ⟨letter, digits, spells⟩
      obtain ⟨address, read, -⟩ := spells.exists_address
      exact ⟨address, read⟩
  · intro text letter digits spells
    obtain ⟨address, read, isColumn, isRow⟩ := spells.exists_address
    exact ⟨address, read, isColumn, isRow, spells.text_eq_iff read⟩

/-- The last row of the last column, with zeros in front of its number, and the row after it. -/
theorem lastRow_reads_back :
    (∃ address,
      ofText? "Z0018446744073709551615" = some address ∧
        address.column.val = 25 ∧ address.row.toNat = 18446744073709551615 ∧
        address.text ≠ "Z0018446744073709551615") ∧
    ofText? "Z18446744073709551616" = none := by
  have spells : Spells "Z0018446744073709551615" 'Z' "0018446744073709551615".toList :=
    { shape := rfl
      isLetter := by decide
      nonempty := by decide
      areDigits := List.all_eq_true.mp (by decide)
      fits := by decide }
  obtain ⟨address, read, isColumn, isRow, sameText⟩ := addresses_read_back.right.left _ _ _ spells
  refine ⟨⟨address, read, isColumn, isRow, ?_⟩, by decide⟩
  exact mt sameText.mp (by decide)

end Address

end Spreadsheet
