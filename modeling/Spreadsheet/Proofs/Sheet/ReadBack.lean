import Spreadsheet.Proofs.Evaluation.NormalForm
import Spreadsheet.Proofs.Sheet.FormulaSheet
import Spreadsheet.Proofs.Sheet.Scope

namespace Spreadsheet.Sheet

open Grid (textAt_of_expressionAt?_eq_some)

/-!
# Reading back what a cell shows

The parser returns normal forms, and evaluation leads from normal forms to normal forms if the
built-ins are in normal form. So all cells that formulas are written to keep normal forms, and the
text that such a cell shows is read as what the cell keeps. This holds as well of sheets that do not
evaluate their formulas.
-/

/-- Formulas, some of which may have been refused, lead from the one sheet to the other. -/
inductive ReachedByFormulas (initial : Sheet) : Sheet → Prop where
  | start :
      ReachedByFormulas initial initial
  | perform {sheet : Sheet} (row column : UInt64) (text : String) :
      ReachedByFormulas initial sheet →
      ReachedByFormulas initial (sheet.perform (.formula row column text)).1

/-- Formulas are read by the parser, and all that they can read is in normal form. -/
structure HasNormalForms (sheet : Sheet) : Prop where
  parse_eq : sheet.parse = Formula.parse
  builtIns_normal : BindsOnly Expression.IsNormal sheet.builtIns
  cells_normal :
    ∀ cell expression, sheet.expressionAt? cell = some expression → expression.IsNormal

namespace HasNormalForms

variable {sheet : Sheet}

/-- What a name is bound to in the snapshot is in normal form. -/
theorem isNormal_of_snapshot
    (normal : sheet.HasNormalForms)
    (name : String)
    (bound : Expression)
    (binds : sheet.snapshot[name]? = some bound) :
    bound.IsNormal := by
  rcases getElem?_snapshot_eq_some binds with ⟨cell, _, written⟩ | builtIn
  · exact normal.cells_normal cell bound written
  · exact normal.builtIns_normal name bound builtIn

/-- What a cell keeps of a normal form is in normal form, whether it could be computed or not. -/
theorem isNormal_of_kept
    (normal : sheet.HasNormalForms)
    {expression kept : Expression}
    (isNormal : expression.IsNormal)
    (keeps : sheet.kept? expression = some kept) :
    kept.IsNormal := by
  rcases sheet.kept?_cases expression with ⟨refused, _⟩ | ⟨found, isFound, _, outcome⟩
  · simp [refused] at keeps
  · obtain rfl := Option.some.inj (isFound.symm.trans keeps)
    rcases outcome with evaluates | ⟨rfl, _⟩
    · exact Expression.isNormal_of_evaluate normal.isNormal_of_snapshot isNormal evaluates
    · exact isNormal

/-- A formula leaves only normal forms behind. -/
theorem perform
    (normal : sheet.HasNormalForms)
    (row column : UInt64)
    (text : String) :
    (sheet.perform (.formula row column text)).1.HasNormalForms := by
  rcases sheet.perform_cases (.formula row column text) with
    ⟨cause, performs⟩ | ⟨address, kept, accepted, performs⟩
  · rw [performs]
    exact normal
  · rw [performs]
    obtain ⟨_, expression, parses, keeps⟩ := decision_formula_eq_ok_iff.mp accepted
    rw [normal.parse_eq] at parses
    have keptNormal := normal.isNormal_of_kept (Formula.isNormal_of_parse parses) keeps
    exact ⟨normal.parse_eq, normal.builtIns_normal,
      Grid.forall_cells_put normal.cells_normal keptNormal⟩

/-- Formulas keep the normal forms of a sheet. -/
theorem of_reachedByFormulas
    {initial : Sheet}
    (normal : initial.HasNormalForms)
    (reached : ReachedByFormulas initial sheet) :
    sheet.HasNormalForms := by
  induction reached with
  | start =>
      exact normal
  | perform row column text _ inductionHypothesis =>
      exact inductionHypothesis.perform row column text

/-- The text that a written cell shows is read as the expression of the cell. -/
theorem parse_textAt
    (normal : sheet.HasNormalForms)
    {cell : Address}
    {expression : Expression}
    (written : sheet.expressionAt? cell = some expression) :
    sheet.parse (sheet.textAt cell.row cell.columnNumber) = .ok expression := by
  rw [normal.parse_eq, textAt_of_expressionAt?_eq_some written]
  exact Formula.parse_render_of_isNormal (normal.cells_normal cell expression written)

end HasNormalForms

/-- A new sheet has normal forms if its built-ins do. -/
theorem hasNormalForms_of_build
    {rows columns : UInt64}
    {filler : Expression}
    {builtIns : List (String × Expression)}
    {initial : Sheet}
    (built : build rows columns filler builtIns = .ok initial)
    (builtInsNormal : BindsOnly Expression.IsNormal initial.builtIns) :
    initial.HasNormalForms where
  parse_eq := parse_eq_of_reachedFrom built .start
  builtIns_normal := builtInsNormal
  cells_normal := by
    intro cell expression written
    simp [expressionAt?_of_build_eq_ok built] at written

/--
The built-ins of a configuration are in normal form. If those of a sheet are, then whatever formulas
are written, the text that a written cell shows is read as the expression that the cell keeps. The
same holds of a sheet that keeps formulas unevaluated, whatever they are; there a written cell that
gets the text that it shows is not changed.
-/
theorem shown_text_reads_back :
    (∀ (config : Config) (initial : Sheet),
      config.buildSheet = .ok initial →
        BindsOnly Expression.IsNormal initial.builtIns) ∧
    (∀ (rows columns : UInt64) (filler : Expression) (builtIns : List (String × Expression))
      (initial sheet : Sheet),
      build rows columns filler builtIns = .ok initial →
      BindsOnly Expression.IsNormal initial.builtIns →
      ReachedByFormulas initial sheet →
        ∀ cell expression, sheet.expressionAt? cell = some expression →
          sheet.parse (sheet.view.valueAt cell.row cell.columnNumber).text = .ok expression) ∧
    ∀ (rows columns : UInt64) (filler : Expression) (sheet : FormulaSheet),
      FormulaSheet.ReachedFrom (.blank rows columns filler) sheet →
        ∀ cell expression, sheet.expressionAt? cell = some expression →
          let shown := (sheet.view.valueAt cell.row cell.columnNumber).text
          Formula.parse shown = .ok expression ∧
            sheet.update cell.row cell.columnNumber shown = .ok sheet := by
  refine ⟨?_, ?_, ?_⟩
  · intro config initial built
    exact bindsOnly_of_buildSheet Expression.isNormal_constant built
  · intro rows columns filler builtIns initial sheet built builtInsNormal reached
    have normal := (hasNormalForms_of_build built builtInsNormal).of_reachedByFormulas reached
    exact fun cell expression written => normal.parse_textAt written
  · intro rows columns filler sheet reached cell expression written
    have keeps := (FormulaSheet.keepsNormalForms_blank rows columns filler).of_reachedFrom reached
    exact ⟨keeps.parse_textAt written, keeps.update_textAt written⟩

theorem lifeSheet_shown_text_reads_back :
    let cell : Address := ⟨0, ⟨0, zero_lt_columnLimit⟩⟩
    let sheet := (lifeSheet.perform (.formula 0 0 "life")).1
    let formulas := ((FormulaSheet.blank 3 3 .empty).perform 0 0 "life").1
    build 3 3 .empty [("life", .constant 42)] = .ok lifeSheet ∧
      BindsOnly Expression.IsNormal lifeSheet.builtIns ∧
      ReachedByFormulas lifeSheet sheet ∧
      sheet.expressionAt? cell = some (.constant 42) ∧
      sheet.parse (sheet.view.valueAt 0 0).text = .ok (.constant 42) ∧
      FormulaSheet.ReachedFrom (.blank 3 3 .empty) formulas ∧
      formulas.expressionAt? cell = some (.reference "life") ∧
      formulas.update 0 0 (formulas.view.valueAt 0 0).text = .ok formulas := by
  intro cell sheet formulas
  have life : Formula.parse "life" = .ok (.reference "life") :=
    (parse_name_iff ⟨rfl, rfl⟩).mpr (Formula.literal?_eq_none_iff.mp (by decide))
  have accepted : lifeSheet.decision (.formula 0 0 "life") = .ok (cell, .constant 42) :=
    decision_formula_eq_ok_iff.mpr ⟨rfl, _, life, rfl⟩
  have written : sheet.expressionAt? cell = some (.constant 42) := by
    simp only [sheet, perform_of_decision_ok accepted]
    exact Grid.expressionAt?_put_self ..
  have updates :
      (FormulaSheet.blank 3 3 .empty).update 0 0 "life" =
        .ok { FormulaSheet.blank 3 3 .empty with
          toGrid := (FormulaSheet.blank 3 3 .empty).put cell (.reference "life") } :=
    FormulaSheet.update_eq_ok_iff.mpr ⟨cell, _, rfl, life, rfl⟩
  have formulaWritten : formulas.expressionAt? cell = some (.reference "life") := by
    simp only [formulas, FormulaSheet.perform, updates]
    exact Grid.expressionAt?_put_self ..
  have reached : ReachedByFormulas lifeSheet sheet :=
    .perform 0 0 "life" .start
  have formulasReached : FormulaSheet.ReachedFrom (.blank 3 3 .empty) formulas :=
    .perform 0 0 "life" .start
  obtain ⟨ofConfig, ofSheet, ofFormulas⟩ := shown_text_reads_back
  have normal := ofConfig _ _ buildSheet_eq_ok_lifeSheet
  exact ⟨buildWith_eq_ok_lifeSheet, normal, reached, written,
    ofSheet _ _ _ _ _ _ buildWith_eq_ok_lifeSheet normal reached cell _ written,
    formulasReached, formulaWritten,
    (ofFormulas _ _ _ _ formulasReached cell _ formulaWritten).2⟩

end Spreadsheet.Sheet
