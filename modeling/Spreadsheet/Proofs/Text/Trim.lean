import Spreadsheet.Text.Blank
import Mathlib.Data.List.TakeWhile

namespace Spreadsheet.Text

/-!
# What trimming removes

Trimming takes a run of blanks from each end of a text and nothing else, so blanks that are added
to either end of a text are lost again.
-/

/-- All characters of the text are blank. -/
def IsBlankText (text : List Char) : Prop :=
  ∀ character ∈ text, isBlank character = true

theorem isBlankText_singleton
    {character : Char} :
    IsBlankText [character] ↔ isBlank character = true := by
  simp [IsBlankText]

theorem IsBlankText.append
    {first second : List Char}
    (firstBlank : IsBlankText first)
    (secondBlank : IsBlankText second) :
    IsBlankText (first ++ second) := by
  intro character member
  rcases List.mem_append.mp member with inFirst | inSecond
  · exact firstBlank character inFirst
  · exact secondBlank character inSecond

theorem trimStart_eq_nil_iff
    {text : List Char} :
    trimStart text = [] ↔ IsBlankText text :=
  List.dropWhile_eq_nil_iff

/-- Blanks behind a text are trimmed with its own. -/
theorem trimEnd_append_of_isBlankText
    (text : List Char)
    {blanks : List Char}
    (blank : IsBlankText blanks) :
    trimEnd (text ++ blanks) = trimEnd text := by
  have reversedBlank :
      ∀ character ∈ blanks.reverse, isBlank character = true :=
    fun character member =>
      blank character (List.mem_reverse.mp member)
  simp only [trimEnd, List.reverse_append]
  rw [List.dropWhile_append_of_pos reversedBlank]

/-- Blanks at the end of a text are trimmed away. -/
theorem trim_append_of_isBlankText
    (text : List Char)
    {blanks : List Char}
    (blank : IsBlankText blanks) :
    trim (text ++ blanks) = trim text := by
  unfold trim
  by_cases allBlank : IsBlankText text
  · rw [trimStart_eq_nil_iff.mpr (allBlank.append blank), trimStart_eq_nil_iff.mpr allBlank]
  · have remains : trimStart text ≠ [] :=
      fun empty => allBlank (trimStart_eq_nil_iff.mp empty)
    have kept : trimStart (text ++ blanks) = trimStart text ++ blanks := by
      simp only [trimStart] at remains ⊢
      rw [List.dropWhile_append, if_neg (by simpa using remains)]
    rw [kept, trimEnd_append_of_isBlankText _ blank]

/-- Blanks at the beginning of a text are trimmed away. -/
theorem trim_append_left_of_isBlankText
    {blanks : List Char}
    (blank : IsBlankText blanks)
    (text : List Char) :
    trim (blanks ++ text) = trim text := by
  simp only [trim, trimStart]
  rw [List.dropWhile_append_of_pos blank]

/-- A text is what trimming leaves of it, between two runs of blanks. -/
theorem exists_eq_append_trim_append
    (text : List Char) :
    ∃ leading trailing,
      IsBlankText leading ∧ IsBlankText trailing ∧
        text = leading ++ trim text ++ trailing := by
  refine
    ⟨text.takeWhile isBlank,
      ((trimStart text).reverse.takeWhile isBlank).reverse,
      ?_, ?_, ?_⟩
  · intro character member
    exact List.mem_takeWhile_imp member
  · intro character member
    exact List.mem_takeWhile_imp (List.mem_reverse.mp member)
  · have start :
        text = text.takeWhile isBlank ++ trimStart text :=
      List.takeWhile_append_dropWhile.symm
    have finish :
        trimStart text =
          trim text ++
            ((trimStart text).reverse.takeWhile isBlank).reverse := by
      rw [trim, trimEnd, ← List.reverse_append,
        List.takeWhile_append_dropWhile, List.reverse_reverse]
    rw [List.append_assoc, ← finish]
    exact start

/-- Nothing is left of a text exactly if it is blank. -/
theorem trim_eq_nil_iff
    {text : List Char} :
    trim text = [] ↔ IsBlankText text := by
  constructor
  · intro empty
    obtain ⟨leading, trailing, leadingBlank, trailingBlank, shape⟩ :=
      exists_eq_append_trim_append text
    rw [empty, List.append_nil] at shape
    rw [shape]
    exact leadingBlank.append trailingBlank
  · intro blank
    rw [trim, trimStart_eq_nil_iff.mpr blank]
    rfl

@[simp] theorem trim_trim
    (text : List Char) :
    trim (trim text) = trim text := by
  obtain ⟨leading, trailing, leadingBlank, trailingBlank, shape⟩ :=
    exists_eq_append_trim_append text
  calc
    trim (trim text) = trim (leading ++ trim text) :=
      (trim_append_left_of_isBlankText leadingBlank _).symm
    _ = trim (leading ++ trim text ++ trailing) :=
      (trim_append_of_isBlankText _ trailingBlank).symm
    _ = trim text := by rw [← shape]

@[simp] theorem trim_trimStart
    (text : List Char) :
    trim (trimStart text) = trim text := by
  have leadingBlank : IsBlankText (text.takeWhile isBlank) :=
    fun _ member => List.mem_takeWhile_imp member
  rw [← trim_append_left_of_isBlankText leadingBlank (trimStart text), trimStart,
    List.takeWhile_append_dropWhile]

@[simp] theorem trim_trimEnd
    (text : List Char) :
    trim (trimEnd text) = trim text := by
  have trailingBlank : IsBlankText (text.reverse.takeWhile isBlank).reverse :=
    fun _ member => List.mem_takeWhile_imp (List.mem_reverse.mp member)
  rw [← trim_append_of_isBlankText (trimEnd text) trailingBlank, trimEnd, ← List.reverse_append,
    List.takeWhile_append_dropWhile, List.reverse_reverse]

/-- Trimming goes no further than a character that is not blank. -/
theorem trim_append_cons_of_not_blank
    (before : List Char)
    {ink : Char}
    (notBlank : isBlank ink = false)
    (after : List Char) :
    trim (before ++ ink :: after) = trimStart before ++ ink :: trimEnd after := by
  have stops : ∀ first later : List Char,
      (first ++ ink :: later).dropWhile isBlank = first.dropWhile isBlank ++ ink :: later := by
    intro first later
    rw [List.dropWhile_append]
    split
    · rename_i allBlank
      rw [List.isEmpty_iff.mp allBlank, List.dropWhile_cons_of_neg (by simp [notBlank]),
        List.nil_append]
    · rfl
  have start : trimStart (before ++ ink :: after) = trimStart before ++ ink :: after :=
    stops before after
  have finish : trimEnd (trimStart before ++ ink :: after) =
      trimStart before ++ ink :: trimEnd after := by
    have reversed := stops after.reverse (trimStart before).reverse
    rw [trimEnd, trimEnd, List.reverse_append, List.reverse_cons, List.append_assoc,
      List.singleton_append, reversed]
    simp
  rw [trim, start, finish]

/-- A text without blanks is left as it is. -/
theorem trim_eq_self_of_no_blank
    {text : List Char}
    (noBlank : ∀ character ∈ text, isBlank character = false) :
    trim text = text := by
  obtain ⟨leading, trailing, leadingBlank, trailingBlank, shape⟩ :=
    exists_eq_append_trim_append text
  have nothingBlank :
      ∀ {blanks : List Char}, IsBlankText blanks → blanks ⊆ text → blanks = [] := by
    intro blanks blank inside
    refine List.eq_nil_iff_forall_not_mem.mpr fun character member => ?_
    have isIt := blank character member
    simp [noBlank character (inside member)] at isIt
  have leadingInside : leading ⊆ text := by
    rw [shape, List.append_assoc]
    exact List.subset_append_left _ _
  have trailingInside : trailing ⊆ text := by
    rw [shape]
    exact List.subset_append_right _ _
  rw [nothingBlank leadingBlank leadingInside,
    nothingBlank trailingBlank trailingInside] at shape
  simpa using shape.symm

end Spreadsheet.Text
