import Mathlib.Data.List.Lex

namespace Spreadsheet.Text

/-!
# The order of texts and of their bytes

Texts are ordered by their characters. The bytes of their UTF-8 encodings are in the same order,
because the encodings of two characters differ at a byte that both have, and the byte of the lower
character is the lower one.
-/

/-- The bytes of the UTF-8 encoding of a text. -/
def bytes (text : String) : List UInt8 :=
  text.toUTF8.data.toList

/-- At the first place where the bytes differ the first ones are lower, and both go so far. -/
inductive DiffersBelow : List UInt8 → List UInt8 → Prop where
  | here {lower higher : UInt8} {first second : List UInt8} :
      lower < higher →
      DiffersBelow (lower :: first) (higher :: second)
  | later {byte : UInt8} {first second : List UInt8} :
      DiffersBelow first second →
      DiffersBelow (byte :: first) (byte :: second)

theorem differsBelow_cons_iff
    {lower higher : UInt8}
    {first second : List UInt8} :
    DiffersBelow (lower :: first) (higher :: second) ↔
      lower < higher ∨ lower = higher ∧ DiffersBelow first second := by
  constructor
  · intro differs
    cases differs with
    | here less =>
        exact Or.inl less
    | later rest =>
        exact Or.inr ⟨rfl, rest⟩
  · rintro (less | ⟨rfl, rest⟩)
    · exact .here less
    · exact .later rest

theorem not_differsBelow_nil
    (bytes : List UInt8) :
    ¬ DiffersBelow [] bytes :=
  nofun

theorem not_differsBelow_nil_right
    (bytes : List UInt8) :
    ¬ DiffersBelow bytes [] :=
  nofun

/-- What follows does not change the order of bytes that differ. -/
theorem DiffersBelow.append_lt_append
    {first second : List UInt8}
    (differs : DiffersBelow first second)
    (afterFirst afterSecond : List UInt8) :
    first ++ afterFirst < second ++ afterSecond := by
  induction differs with
  | here less =>
      exact List.cons_lt_cons_iff.mpr (Or.inl less)
  | later _ inductionHypothesis =>
      exact List.cons_lt_cons_iff.mpr (Or.inr ⟨rfl, inductionHypothesis⟩)

/-- The leading byte tells how many bytes there are; those after it are digits of the character. -/
theorem differsBelow_utf8EncodeChar
    {first second : Char}
    (less : first < second) :
    DiffersBelow (String.utf8EncodeChar first) (String.utf8EncodeChar second) := by
  have lessNumber : first.val.toNat < second.val.toNat := less
  have bound : second.val.toNat < 0x110000 := by
    rcases second.valid with low | ⟨-, high⟩ <;> omega
  unfold String.utf8EncodeChar
  generalize first.val.toNat = lower at lessNumber
  generalize second.val.toNat = higher at lessNumber bound
  -- The bytes hold the digits to base 64, and the first digit that differs decides.
  have digits :
      lower / 262144 < higher / 262144 ∨ lower / 262144 = higher / 262144 ∧
        (lower / 4096 % 64 < higher / 4096 % 64 ∨ lower / 4096 % 64 = higher / 4096 % 64 ∧
          (lower / 64 % 64 < higher / 64 % 64 ∨ lower / 64 % 64 = higher / 64 % 64 ∧
            lower % 64 < higher % 64)) := by
    omega
  have fits : ∀ number, (number % 64 + 128) % 2 ^ 8 = number % 64 + 128 := by
    omega
  have lowerLead : (lower / 262144 % 8 + 240) % 2 ^ 8 = lower / 262144 + 240 := by
    omega
  have higherLead : (higher / 262144 % 8 + 240) % 2 ^ 8 = higher / 262144 + 240 := by
    omega
  dsimp only
  -- The cases are the lengths of the two encodings.
  split_ifs <;>
    simp only [differsBelow_cons_iff, not_differsBelow_nil, not_differsBelow_nil_right, and_false,
      or_false, UInt8.lt_iff_toNat_lt, ← UInt8.toNat_inj, UInt8.toNat_ofNat', fits, lowerLead,
      higherLead] <;>
    omega

/-- The bytes of a text are those of its characters. -/
theorem bytes_eq_flatMap
    (text : String) :
    bytes text = text.toList.flatMap String.utf8EncodeChar := by
  rw [bytes, String.toUTF8_eq_toByteArray, ← String.utf8Encode_toList, List.utf8Encode,
    List.toList_data_toByteArray]

/-- A lower text has the lower bytes. -/
theorem flatMap_utf8EncodeChar_lt
    {first second : List Char}
    (less : first < second) :
    first.flatMap String.utf8EncodeChar < second.flatMap String.utf8EncodeChar := by
  induction first generalizing second with
  | nil =>
      cases second with
      | nil =>
          exact absurd less (List.lt_irrefl _)
      | cons character later =>
          obtain ⟨byte, rest, shape⟩ :=
            List.exists_cons_of_ne_nil (String.utf8EncodeChar_ne_nil (c := character))
          rw [List.flatMap_cons, shape]
          exact List.nil_lt_cons _ _
  | cons lower rest inductionHypothesis =>
      cases second with
      | nil =>
          exact absurd less (List.not_lt_nil _)
      | cons higher later =>
          rw [List.flatMap_cons, List.flatMap_cons]
          rcases List.cons_lt_cons_iff.mp less with lessHead | ⟨rfl, lessRest⟩
          · exact (differsBelow_utf8EncodeChar lessHead).append_lt_append _ _
          · exact List.append_left_lt (inductionHypothesis lessRest)

/-- The order of texts is that of their bytes. -/
theorem bytes_lt_bytes
    {first second : String}
    (less : first < second) :
    bytes first < bytes second := by
  rw [bytes_eq_flatMap, bytes_eq_flatMap]
  exact flatMap_utf8EncodeChar_lt (String.lt_iff.mp less)

end Spreadsheet.Text
