import Spreadsheet.Formula.Parse
import Spreadsheet.Proofs.Formula.Lexer

namespace Spreadsheet

/-!
# Literals and names

A token of the formula language is a literal or a name. Both are described here without reference
to how they are read, and reading a token is shown to accept exactly these.
-/

namespace Decimal

theorem natural?_eq_some_iff
    {text : List Char}
    {value : Nat} :
    natural? text = some value ↔
      text ≠ [] ∧ (∀ digit ∈ text, digit.isDigit = true) ∧
        value = Nat.ofDigitChars 10 text 0 := by
  rw [natural?, Option.ite_none_right_eq_some, List.all_eq_true,
    Option.some.injEq, and_assoc, eq_comm (a := value)]

/-- A text of digits is read without a sign. -/
theorem integer?_of_digits
    {digits : List Char}
    (allDigits : ∀ digit ∈ digits, digit.isDigit = true) :
    integer? digits = (natural? digits).map fun magnitude : Nat => (magnitude : Int) := by
  unfold integer?
  split
  · exact absurd (allDigits '-' (List.mem_cons_self ..)) (by decide)
  · exact absurd (allDigits '+' (List.mem_cons_self ..)) (by decide)
  · rfl

end Decimal

theorem Bounded.int64?_eq_some_iff
    {value : Int}
    {word : Int64} :
    int64? value = some word ↔ word.toInt = value := by
  constructor
  · exact toInt_of_int64?_eq_some
  · intro same
    rw [← same, int64?_toInt]

namespace Formula

/--
The characters write a 64-bit integer: ASCII digits, of which there is at least one, with at most
one sign directly before them.
-/
def IsLiteral (text : List Char) (value : Int64) : Prop :=
  ∃ sign digits : List Char,
    text = sign ++ digits ∧
      (sign = [] ∨ sign = ['+'] ∨ sign = ['-']) ∧
      digits ≠ [] ∧
      (∀ digit ∈ digits, digit.isDigit = true) ∧
      value.toInt =
        if sign = ['-'] then
          -(Nat.ofDigitChars 10 digits 0 : Int)
        else
          (Nat.ofDigitChars 10 digits 0 : Int)

/-- The characters are letters and numbers, of which there is at least one, and no literal. -/
def IsName (text : List Char) : Prop :=
  text ≠ [] ∧
    (∀ character ∈ text, Text.isAlphanumeric character = true) ∧
    ∀ value, ¬ IsLiteral text value

/-- The expression that a literal or a name stands for. -/
inductive IsAtom : List Char → Expression → Prop where
  | literal {text : List Char} {value : Int64} :
      IsLiteral text value →
      IsAtom text (.constant value)
  | name {text : List Char} :
      IsName text →
      IsAtom text (.reference (String.ofList text))

theorem integer?_eq_some_iff
    {text : List Char}
    {value : Int64} :
    Decimal.integer? text = some value.toInt ↔ IsLiteral text value := by
  constructor
  · intro read
    unfold Decimal.integer? at read
    split at read
    all_goals
      obtain ⟨magnitude, isNatural, sameValue⟩ := Option.map_eq_some_iff.mp read
      obtain ⟨nonempty, allDigits, isMagnitude⟩ :=
        Decimal.natural?_eq_some_iff.mp isNatural
      subst isMagnitude
    · exact ⟨['-'], _, rfl, by simp, nonempty, allDigits, by simp [sameValue]⟩
    · exact ⟨['+'], _, rfl, by simp, nonempty, allDigits, by simp [sameValue]⟩
    · exact ⟨[], text, rfl, by simp, nonempty, allDigits, by simp [sameValue]⟩
  · rintro ⟨sign, digits, rfl, signs, nonempty, allDigits, sameValue⟩
    have isNatural :
        Decimal.natural? digits = some (Nat.ofDigitChars 10 digits 0) :=
      Decimal.natural?_eq_some_iff.mpr ⟨nonempty, allDigits, rfl⟩
    rw [sameValue]
    rcases signs with rfl | rfl | rfl
    · rw [List.nil_append, Decimal.integer?_of_digits allDigits, isNatural]
      rfl
    · rw [List.singleton_append, Decimal.integer?, isNatural]
      rfl
    · rw [List.singleton_append, Decimal.integer?, isNatural]
      rfl

theorem literal?_eq_some_iff
    {text : List Char}
    {value : Int64} :
    literal? text = some value ↔ IsLiteral text value := by
  rw [← integer?_eq_some_iff, literal?, Option.bind_eq_some_iff]
  constructor
  · rintro ⟨integer, read, fits⟩
    rw [read, Bounded.int64?_eq_some_iff.mp fits]
  · intro read
    exact ⟨value.toInt, read, Bounded.int64?_toInt value⟩

theorem literal?_eq_none_iff
    {text : List Char} :
    literal? text = none ↔ ∀ value, ¬ IsLiteral text value := by
  simp only [Option.eq_none_iff_forall_ne_some, ne_eq, literal?_eq_some_iff]

theorem isName_eq_true_iff
    {text : List Char} :
    isName text = true ↔
      text ≠ [] ∧ ∀ character ∈ text, Text.isAlphanumeric character = true := by
  simp [isName]

/-- ASCII letters and digits are a name, unless they write a number. -/
theorem isName_of_isAlphanum
    {text : List Char}
    (nonempty : text ≠ [])
    (alphanumeric : text.all Char.isAlphanum = true)
    (noLiteral : literal? text = none) :
    IsName text := by
  refine ⟨nonempty, fun character member => ?_, literal?_eq_none_iff.mp noLiteral⟩
  exact Text.isAlphanumeric_of_isAlphanum (List.all_eq_true.mp alphanumeric character member)

/-- A token is read exactly if it is a literal or a name. -/
theorem token_eq_ok_iff
    {text : List Char}
    {expression : Expression} :
    token text = .ok expression ↔ IsAtom text expression := by
  unfold token
  constructor
  · intro read
    split at read
    · rename_i value isLiteral
      cases read
      exact .literal (literal?_eq_some_iff.mp isLiteral)
    · rename_i noLiteral
      split at read
      · rename_i name
        cases read
        obtain ⟨nonempty, alphanumeric⟩ := isName_eq_true_iff.mp name
        exact .name ⟨nonempty, alphanumeric, literal?_eq_none_iff.mp noLiteral⟩
      · contradiction
  · intro atom
    cases atom with
    | literal isLiteral =>
        rw [literal?_eq_some_iff.mpr isLiteral]
    | name name =>
        obtain ⟨nonempty, alphanumeric, noLiteral⟩ := name
        rw [literal?_eq_none_iff.mpr noLiteral]
        simp [isName_eq_true_iff.mpr ⟨nonempty, alphanumeric⟩]

/-- A text that is neither a literal nor a name is no token. -/
theorem token_of_not_isAtom
    {text : List Char}
    (noAtom : ∀ expression, ¬ IsAtom text expression) :
    token text = .error (.invalidToken (String.ofList text)) := by
  cases read : token text with
  | ok expression =>
      exact absurd (token_eq_ok_iff.mp read) (noAtom expression)
  | error cause =>
      unfold token at read
      split at read
      · contradiction
      · split at read
        · contradiction
        · exact read.symm

/-- A literal or name stands for one expression. -/
theorem IsAtom.unique
    {text : List Char}
    {first second : Expression}
    (isFirst : IsAtom text first)
    (isSecond : IsAtom text second) :
    first = second := by
  have read := token_eq_ok_iff.mpr isFirst
  rw [token_eq_ok_iff.mpr isSecond] at read
  exact (Except.ok.inj read).symm

/-- A character that counts as a letter or number is not blank and writes no operator. -/
theorem not_blank_of_isAlphanumeric
    {character : Char}
    (alphanumeric : Text.isAlphanumeric character = true) :
    Text.isBlank character = false ∧ isSymbol character = false := by
  constructor
  -- The statement is about the list and not about all characters, so that it can be evaluated.
  · have noBlank : Text.blanks.any Text.isAlphanumeric = false := by
      decide +kernel
    cases isBlank : Text.isBlank character with
    | false =>
        rfl
    | true =>
        have inBlanks : character ∈ Text.blanks := List.contains_iff_mem.mp isBlank
        exact absurd alphanumeric (List.any_eq_false.mp noBlank character inBlanks)
  · cases found : Operator.ofSymbol? character with
    | none =>
        rw [isSymbol, found]
        rfl
    | some operator =>
        rw [ofSymbol?_eq_some_iff.mp found] at alphanumeric
        cases operator <;> exact absurd alphanumeric (by decide)

/-- A literal or name is the text of an operand. -/
theorem IsAtom.isOperand
    {text : List Char}
    {expression : Expression}
    (atom : IsAtom text expression) :
    IsOperand text := by
  cases atom with
  | literal isLiteral =>
      obtain ⟨sign, digits, shape, signs, nonempty, allDigits, _⟩ := isLiteral
      refine ⟨sign, digits, shape, signs, nonempty, fun digit member => ?_⟩
      have alphanumeric : digit.isAlphanum = true := by
        simp [Char.isAlphanum, allDigits digit member]
      exact not_blank_of_isAlphanumeric (Text.isAlphanumeric_of_isAlphanum alphanumeric)
  | name isName =>
      obtain ⟨nonempty, alphanumeric, _⟩ := isName
      exact ⟨[], text, rfl, Or.inl rfl, nonempty, fun character member =>
        not_blank_of_isAlphanumeric (alphanumeric character member)⟩

end Formula

end Spreadsheet
