import Spreadsheet.Proofs.Address
import Spreadsheet.Proofs.Sheet.Scope

namespace Spreadsheet

/-!
# Spellings of addresses

Zeros before the row number make no difference where an address is read. The text of an address has
none of them, and under no other spelling is a cell known to formulas: there the spelling is a name
of its own, which means nothing. So a formula reads a cell, and is found as a dependent of the cell,
only through the text of the address of the cell.
-/

namespace Sheet

section Reached

variable
  {rows columns : UInt64}
  {filler : Expression}
  {builtIns : List (String × Expression)}
  {initial sheet : Sheet}
  {text : String}
  {cell : Address}

/-- A cell is known by the text of its address and not by another spelling. -/
theorem getElem?_snapshot_of_other_spelling
    (named : BindsBuiltInNames sheet.builtIns)
    (spelled : Address.ofText? text = some cell)
    (other : text ≠ cell.text) :
    sheet.snapshot[text]? = none := by
  apply (getElem?_snapshot_eq_iff_means named).mpr
  apply Means.nothing
  · intro isBuiltIn
    rw [(named text isBuiltIn).2] at spelled
    contradiction
  · rintro address rfl
    rw [Address.ofText?_text] at spelled
    exact absurd (congrArg Address.text (Option.some.inj spelled)) other

/--
A spelling of an address is read as a name. It evaluates to the same as the text of the address only
if it is this text, or if the cell itself evaluates to the spelling. A written cell that reads the
spelling is a dependent of the cell only if the spelling is the text of the address, or because of
another name that it reads.
-/
theorem cell_is_known_by_its_text_only
    (built : build rows columns filler builtIns = .ok initial)
    (reached : ReachedFrom initial sheet)
    (spelled : Address.ofText? text = some cell) :
    sheet.parse text = .ok (.reference text) ∧
    (Outcome.Same
        ((Expression.reference text).evaluate sheet.snapshot)
        ((Expression.reference cell.text).evaluate sheet.snapshot) ↔
      text = cell.text ∨
        (Expression.reference cell.text).evaluate sheet.snapshot = .ok (.reference text)) ∧
    ∀ reader expression, sheet.expressionAt? reader = some expression →
      text ∈ expression.dependencies →
        (reader ∈ sheet.dependents cell ↔
          text = cell.text ∨
            ∃ name ∈ expression.dependencies, name ≠ text ∧
              (name = cell.text ∨ ∃ next ∈ sheet.dependents cell, next.text = name)) := by
  have named := bindsBuiltInNames_of_reachedFrom built reached
  refine ⟨?_, ?_, ?_⟩
  · rw [parse_eq_of_reachedFrom built reached]
    exact Formula.parse_of_isName (Address.isName_of_ofText?_eq_some spelled)
  · by_cases isText : text = cell.text
    · rw [isText]
      exact iff_of_true (Outcome.Same.refl _) (Or.inl rfl)
    · have unbound := getElem?_snapshot_of_other_spelling named spelled isText
      have remains :
          (Expression.reference text).evaluate sheet.snapshot = .ok (.reference text) :=
        Expression.resolve_of_unbound _ unbound _
      rw [remains, or_iff_right isText]
      constructor
      · intro same
        exact same.symm.eq_of_not_isCircular (Outcome.not_isCircular_ok _)
      · intro evaluates
        exact Or.inl evaluates.symm
  · intro reader expression written inExpression
    simp only [mem_dependents_iff]
    rw [dependsOn_iff_of_written written]
    constructor
    · rintro ⟨name, inDependencies, through⟩
      by_cases isSpelling : name = text
      · subst isSpelling
        rcases through with isText | ⟨next, rfl, _⟩
        · exact Or.inl isText
        · rw [Address.ofText?_text] at spelled
          exact Or.inl (congrArg Address.text (Option.some.inj spelled))
      · refine Or.inr ⟨name, inDependencies, isSpelling, through.imp_right ?_⟩
        rintro ⟨next, isText, chain⟩
        exact ⟨next, chain, isText⟩
    · rintro (isText | ⟨name, inDependencies, _, through⟩)
      · exact ⟨text, inExpression, Or.inl isText⟩
      · refine ⟨name, inDependencies, through.imp_right ?_⟩
        rintro ⟨next, chain, isText⟩
        exact ⟨next, isText, chain⟩

end Reached

/-- A sheet in which a cell reads the first one under another spelling. -/
def otherSpellingSheet : Sheet :=
  let first := lifeSheet.perform (.expression ⟨0, ⟨0, zero_lt_columnLimit⟩⟩ (.constant 5))
  (first.1.perform (.expression ⟨0, ⟨1, one_lt_columnLimit⟩⟩ (.reference "A00"))).1

theorem otherSpellingSheet_reads_no_cell :
    let cell : Address := ⟨0, ⟨0, zero_lt_columnLimit⟩⟩
    let reader : Address := ⟨0, ⟨1, one_lt_columnLimit⟩⟩
    build 3 3 .empty [("life", .constant 42)] = .ok lifeSheet ∧
      ReachedFrom lifeSheet otherSpellingSheet ∧
      Address.ofText? "A00" = some cell ∧
      otherSpellingSheet.expressionAt? cell = some (.constant 5) ∧
      otherSpellingSheet.parse "A00" = .ok (.reference "A00") ∧
      otherSpellingSheet.expressionAt? reader = some (.reference "A00") ∧
      ¬ Outcome.Same
          ((Expression.reference "A00").evaluate otherSpellingSheet.snapshot)
          ((Expression.reference cell.text).evaluate otherSpellingSheet.snapshot) ∧
      reader ∉ otherSpellingSheet.dependents cell := by
  intro cell reader
  have reached : ReachedFrom lifeSheet otherSpellingSheet :=
    .perform _ (.perform _ .start)
  have spelled : Address.ofText? "A00" = some cell := by
    rfl
  have reads : otherSpellingSheet.expressionAt? reader = some (.reference "A00") := by
    rfl
  have evaluates :
      (Expression.reference cell.text).evaluate otherSpellingSheet.snapshot =
        .ok (.constant 5) := by
    decide
  have notText : "A00" ≠ cell.text := by
    decide
  obtain ⟨parses, sameIff, dependentIff⟩ :=
    cell_is_known_by_its_text_only buildWith_eq_ok_lifeSheet reached spelled
  refine ⟨buildWith_eq_ok_lifeSheet, reached, spelled, rfl, parses, reads, ?_, ?_⟩
  · rw [sameIff, evaluates]
    rintro (isText | isSpelling)
    · exact notText isText
    · simp at isSpelling
  · have onlyName : ∀ name, name ∈ (Expression.reference "A00").dependencies ↔ name = "A00" := by
      simp [Expression.mem_dependencies, Expression.references]
    rw [dependentIff reader _ reads ((onlyName _).mpr rfl)]
    rintro (isText | ⟨name, inDependencies, notSpelling, _⟩)
    · exact notText isText
    · exact notSpelling ((onlyName name).mp inDependencies)

end Sheet

end Spreadsheet
