import Spreadsheet.Edit.Script
import Spreadsheet.Proofs.Address
import Spreadsheet.Proofs.Text.Trim

namespace Spreadsheet

/-!
# Lines of edit scripts

A line of a script holds no edit, or writes one: an address, a colon and a formula, with any blanks
around them. The address is cut off at the first colon, so that the formula may contain others. This
module shows that a line is read accordingly, and that any other line is refused.
-/

namespace Edit

/-- The address stands before the first colon, and the formula behind it. -/
theorem parseCharacters_append_colon
    {cell : List Char}
    (noColon : ':' ∉ cell)
    (formula : List Char) :
    parseCharacters (cell ++ ':' :: formula) =
      (Address.parse (String.ofList (Text.trim cell))).map fun address =>
        ⟨address, String.ofList (Text.trim formula)⟩ := by
  have others : ∀ character ∈ cell, (character != ':') = true := by
    intro character member
    exact bne_iff_ne.mpr fun isColon => noColon (isColon ▸ member)
  have behind : (cell ++ ':' :: formula).dropWhile (· != ':') = ':' :: formula := by
    rw [List.dropWhile_append_of_pos others]
    rfl
  have inFront : (cell ++ ':' :: formula).takeWhile (· != ':') = cell := by
    rw [List.takeWhile_append_of_pos others]
    simp
  rw [parseCharacters, behind, inFront]
  cases Address.parse (String.ofList (Text.trim cell)) <;> rfl

/-- Blanks at the ends of a text with a colon make no difference. -/
theorem parseCharacters_trim_append_colon
    {cell : List Char}
    (noColon : ':' ∉ cell)
    (formula : List Char) :
    parseCharacters (Text.trim (cell ++ ':' :: formula)) =
      parseCharacters (cell ++ ':' :: formula) := by
  have noColonInTrimmed : ':' ∉ Text.trimStart cell :=
    fun member => noColon ((List.dropWhile_suffix _).subset member)
  rw [Text.trim_append_cons_of_not_blank _ (by decide),
    parseCharacters_append_colon noColonInTrimmed, parseCharacters_append_colon noColon,
    Text.trim_trimStart, Text.trim_trimEnd]

/-- A text without a colon is no edit. -/
theorem parseCharacters_of_no_colon
    {text : List Char}
    (noColon : ':' ∉ text) :
    parseCharacters text = .error (.noColon (String.ofList text)) := by
  have nothing : text.dropWhile (· != ':') = [] := by
    rw [List.dropWhile_eq_nil_iff]
    intro character member
    exact bne_iff_ne.mpr fun isColon => noColon (isColon ▸ member)
  rw [parseCharacters, nothing]

end Edit

namespace Script

/--
The line holds no edit: all of it is blank, or the first of its characters that is not blank is a
number sign.
-/
def IsSkippable (line : List Char) : Prop :=
  Text.IsBlankText line ∨
    ∃ blanks comment, Text.IsBlankText blanks ∧ line = blanks ++ '#' :: comment

/--
The line writes the edit: a spelling of the address, a colon, and the formula, which has no blanks at
its ends. There can be any blanks around the address and around the formula.
-/
inductive Writes : List Char → Edit → Prop where
  | intro {left cell beforeColon afterColon formula right : List Char} {address : Address} :
      Text.IsBlankText left →
      address.IsSpelledBy (String.ofList cell) →
      Text.IsBlankText beforeColon →
      Text.IsBlankText afterColon →
      Text.trim formula = formula →
      Text.IsBlankText right →
      Writes (left ++ cell ++ beforeColon ++ ':' :: (afterColon ++ formula ++ right))
        ⟨address, String.ofList formula⟩

/-- Whether a line is skipped is seen after trimming it. -/
theorem isSkipped_trim_iff
    {line : List Char} :
    isSkipped (Text.trim line) = true ↔ IsSkippable line := by
  obtain ⟨leading, trailing, leadingBlank, -, shape⟩ := Text.exists_eq_append_trim_append line
  constructor
  · intro skipped
    cases trimmed : Text.trim line with
    | nil =>
        exact Or.inl (Text.trim_eq_nil_iff.mp trimmed)
    | cons first comment =>
        rw [trimmed] at skipped shape
        have isSign : first = '#' := by simpa [isSkipped] using skipped
        refine Or.inr ⟨leading, comment ++ trailing, leadingBlank, ?_⟩
        rw [shape, isSign]
        simp
  · rintro (blank | ⟨blanks, comment, blanksBlank, rfl⟩)
    · rw [Text.trim_eq_nil_iff.mpr blank]
      rfl
    · rw [Text.trim_append_left_of_isBlankText blanksBlank, ← List.nil_append ('#' :: comment),
        Text.trim_append_cons_of_not_blank _ (by decide)]
      rfl

/-- A spelling of an address has no blank and no colon in it, and no number sign. -/
theorem plain_of_isSpelledBy
    {cell : List Char}
    {address : Address}
    (spelled : address.IsSpelledBy (String.ofList cell)) :
    ∀ character ∈ cell,
      Text.isBlank character = false ∧ character ≠ ':' ∧ character ≠ '#' := by
  have isName := Address.isName_of_ofText?_eq_some
    (Address.ofText?_eq_some_iff_isSpelledBy.mpr spelled)
  rw [String.toList_ofList] at isName
  intro character member
  have alphanumeric := isName.2.1 character member
  refine ⟨(Formula.not_blank_of_isAlphanumeric alphanumeric).1, ?_, ?_⟩
  · rintro rfl
    exact absurd alphanumeric (by decide)
  · rintro rfl
    exact absurd alphanumeric (by decide)

theorem ne_colon_of_isBlank
    {character : Char}
    (blank : Text.isBlank character = true) :
    character ≠ ':' := by
  rintro rfl
  exact absurd blank (by decide)

/-- What a line writes is read from it. -/
theorem parseCharacters_of_writes
    {line : List Char}
    {edit : Edit}
    (writes : Writes line edit) :
    Edit.parseCharacters (Text.trim line) = .ok edit := by
  cases writes with
  | @intro left cell beforeColon afterColon formula right address
      leftBlank spelled beforeBlank afterBlank trimmed rightBlank =>
      have plain := plain_of_isSpelledBy spelled
      have noColon : ':' ∉ left ++ cell ++ beforeColon := by
        simp only [List.mem_append, not_or]
        exact ⟨⟨fun member => ne_colon_of_isBlank (leftBlank _ member) rfl,
          fun member => (plain _ member).2.1 rfl⟩,
          fun member => ne_colon_of_isBlank (beforeBlank _ member) rfl⟩
      have sameCell : Text.trim (left ++ cell ++ beforeColon) = cell := by
        rw [Text.trim_append_of_isBlankText _ beforeBlank,
          Text.trim_append_left_of_isBlankText leftBlank,
          Text.trim_eq_self_of_no_blank fun character member => (plain character member).1]
      have sameFormula : Text.trim (afterColon ++ formula ++ right) = formula := by
        rw [Text.trim_append_of_isBlankText _ rightBlank,
          Text.trim_append_left_of_isBlankText afterBlank, trimmed]
      rw [Edit.parseCharacters_trim_append_colon noColon, Edit.parseCharacters_append_colon noColon,
        sameCell, sameFormula, Address.parse,
        Address.ofText?_eq_some_iff_isSpelledBy.mpr spelled]
      rfl

/-- An edit that is read from a line is written there. -/
theorem writes_of_parseCharacters
    {line : List Char}
    {edit : Edit}
    (read : Edit.parseCharacters (Text.trim line) = .ok edit) :
    Writes line edit := by
  by_cases colon : ':' ∈ line
  · obtain ⟨before, after, rfl, noColon⟩ := List.eq_append_cons_of_mem colon
    rw [Edit.parseCharacters_trim_append_colon noColon,
      Edit.parseCharacters_append_colon noColon, Address.parse] at read
    cases spelled : Address.ofText? (String.ofList (Text.trim before)) with
    | none =>
        rw [spelled] at read
        contradiction
    | some address =>
        rw [spelled] at read
        cases read
        obtain ⟨left, beforeColon, leftBlank, beforeBlank, beforeShape⟩ :=
          Text.exists_eq_append_trim_append before
        obtain ⟨afterColon, right, afterBlank, rightBlank, afterShape⟩ :=
          Text.exists_eq_append_trim_append after
        have writes := Writes.intro leftBlank
          (Address.ofText?_eq_some_iff_isSpelledBy.mp spelled) beforeBlank afterBlank
          (Text.trim_trim after) rightBlank
        rwa [← beforeShape, ← afterShape] at writes
  · have noColon : ':' ∉ Text.trim line := by
      obtain ⟨leading, trailing, -, -, shape⟩ := Text.exists_eq_append_trim_append line
      intro member
      rw [shape] at colon
      simp [member] at colon
    rw [Edit.parseCharacters_of_no_colon noColon] at read
    contradiction

/-- A line writes the edit that is read from it after trimming, and no other. -/
theorem writes_iff
    {line : List Char}
    {edit : Edit} :
    Writes line edit ↔ Edit.parseCharacters (Text.trim line) = .ok edit :=
  ⟨parseCharacters_of_writes, writes_of_parseCharacters⟩

/-- A line that writes an edit is not skipped, since it begins with the address. -/
theorem not_isSkippable_of_writes
    {line : List Char}
    {edit : Edit}
    (writes : Writes line edit) :
    ¬ IsSkippable line := by
  cases writes with
  | @intro left cell beforeColon afterColon formula right address
      leftBlank spelled beforeBlank afterBlank trimmed rightBlank =>
      have plain := plain_of_isSpelledBy spelled
      obtain ⟨letter, digits, spells, -, -⟩ := spelled
      have shape : cell = letter :: digits := by
        rw [← spells.shape, String.toList_ofList]
      obtain ⟨notBlank, -, notSign⟩ := plain letter (by simp [shape])
      rw [← isSkipped_trim_iff]
      rw [shape, List.append_assoc, List.append_assoc, List.cons_append,
        Text.trim_append_left_of_isBlankText leftBlank, ← List.nil_append (letter :: _),
        Text.trim_append_cons_of_not_blank _ notBlank]
      simpa [isSkipped, Text.trimStart] using notSign

end Script

end Spreadsheet
