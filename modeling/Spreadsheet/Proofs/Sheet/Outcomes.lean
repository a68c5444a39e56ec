import Spreadsheet.Proofs.Evaluation.Extension
import Spreadsheet.Proofs.Evaluation.Values
import Spreadsheet.Proofs.Sheet.Scope

namespace Spreadsheet.Sheet

open Expression (evaluate)

/-!
# Outcomes of formulas in a sheet

Cells that are written for the first time bind names that meant nothing before. So they can change
the outcome of a formula only if the formula comes to such a name or lacks a number. A write of an
expression that has a value leaves the value in its cell, which is a number, nothing, or a name, and
never an operation.
-/

/-! ## Cells that are written for the first time -/

/-- If no written cell changes, all that the snapshot binds stays bound to the same. -/
theorem extends_snapshot
    {sheet later : Sheet}
    (named : BindsBuiltInNames sheet.builtIns)
    (sameBuiltIns : later.builtIns = sheet.builtIns)
    (unchanged :
      ∀ cell, sheet.IsWritten cell → later.expressionAt? cell = sheet.expressionAt? cell) :
    later.snapshot.Extends sheet.snapshot := by
  intro name binding binds
  rcases getElem?_snapshot_eq_some binds with ⟨cell, rfl, written⟩ | builtIn
  · have stillWritten : later.expressionAt? cell = some binding := by
      rw [← written]
      apply unchanged
      rw [IsWritten, written, Option.isSome_some]
    simp only [getElem?_snapshot_text, stillWritten, Option.some_or]
  · rw [← sameBuiltIns] at named builtIn
    exact getElem?_snapshot_of_builtIn named builtIn

/--
What an expression evaluates to stays the same when more names are bound, if it is a number,
nothing, a failed computation or a circle. So when cells of a sheet are written for the first time,
the outcome of a formula changes only if it was a name without a binding or the complaint that an
operand is not a number.
-/
theorem new_bindings_keep_resolved_outcomes :
    (∀ (smaller larger : Context) (expression : Expression),
      larger.Extends smaller →
        (∀ number,
          evaluate smaller expression = .ok (.constant number) →
            evaluate larger expression = .ok (.constant number)) ∧
        (evaluate smaller expression = .ok .empty → evaluate larger expression = .ok .empty) ∧
        (evaluate smaller expression = .error .divisionByZero →
          evaluate larger expression = .error .divisionByZero) ∧
        (evaluate smaller expression = .error .overflow →
          evaluate larger expression = .error .overflow) ∧
        ((∃ name, evaluate smaller expression = .error (.circularReference name)) →
          ∃ name, evaluate larger expression = .error (.circularReference name))) ∧
    ∀ (parse : String → Except FormulaError Expression) (rows columns : UInt64)
      (filler : Expression) (builtIns : List (String × Expression)) (initial sheet later : Sheet),
      buildWith parse rows columns filler builtIns = .ok initial →
      ReachedFrom initial sheet →
      ReachedFrom sheet later →
      (∀ cell, sheet.IsWritten cell → later.expressionAt? cell = sheet.expressionAt? cell) →
        ∀ formula : Expression,
          ¬ Outcome.Same (evaluate sheet.snapshot formula) (evaluate later.snapshot formula) →
            (∃ name, evaluate sheet.snapshot formula = .ok (.reference name)) ∨
              ∃ text, evaluate sheet.snapshot formula = .error (.notNumeric text) := by
  constructor
  · intro smaller larger expression extension
    have keeps {outcome : Outcome Expression} (definite : outcome.IsDefinite) :
        evaluate smaller expression = outcome → evaluate larger expression = outcome :=
      Expression.evaluate_eq_of_extends extension definite
    exact ⟨fun number => keeps (.number number), keeps .empty, keeps .divisionByZero,
      keeps .overflow, Expression.isCircular_evaluate_of_extends extension⟩
  · intro parse rows columns filler builtIns initial sheet later built reached laterReached
      unchanged formula changes
    have asBuilt := (isAsBuilt_of_build_eq_ok built).of_reachedFrom reached
    have startsAsBuilt : IsAsBuilt sheet sheet :=
      ⟨rfl, rfl, rfl, rfl, rfl, asBuilt.isWritten_inside⟩
    have sameBuiltIns := (startsAsBuilt.of_reachedFrom laterReached).builtIns_eq
    have extension :=
      extends_snapshot (bindsBuiltInNames_of_reachedFrom built reached) sameBuiltIns unchanged
    exact (Expression.evaluate_sameUnlessUnresolved extension formula).resolve_right changes

/-- A name without a binding gets one, and a formula that does not need it keeps its value. -/
theorem lifeSheet_new_cell_keeps_resolved_outcomes :
    let cell : Address := ⟨0, ⟨0, zero_lt_columnLimit⟩⟩
    let later := (lifeSheet.perform (.expression cell (.constant 7))).1
    let formula := Expression.operation .plus (.reference "life") [.constant 1]
    buildWith Formula.parse 3 3 .empty [("life", .constant 42)] = .ok lifeSheet ∧
      ReachedFrom lifeSheet later ∧
      (∀ other, lifeSheet.IsWritten other →
        later.expressionAt? other = lifeSheet.expressionAt? other) ∧
      later.snapshot.Extends lifeSheet.snapshot ∧
      evaluate lifeSheet.snapshot formula = .ok (.constant 43) ∧
      evaluate later.snapshot formula = .ok (.constant 43) ∧
      evaluate later.snapshot (.reference "A0") = .ok (.constant 7) ∧
      ((∃ name, evaluate lifeSheet.snapshot (.reference "A0") = .ok (.reference name)) ∨
        ∃ text, evaluate lifeSheet.snapshot (.reference "A0") = .error (.notNumeric text)) := by
  intro cell later formula
  have reached : ReachedFrom lifeSheet later :=
    .perform _ .start
  have noneWritten : ∀ other, ¬ lifeSheet.IsWritten other := by
    intro other
    simp [IsWritten, expressionAt?_of_build_eq_ok buildWith_eq_ok_lifeSheet]
  have unchanged :
      ∀ other, lifeSheet.IsWritten other →
        later.expressionAt? other = lifeSheet.expressionAt? other :=
    fun other isWritten => absurd isWritten (noneWritten other)
  have extension : later.snapshot.Extends lifeSheet.snapshot :=
    extends_snapshot (bindsBuiltInNames_of_reachedFrom buildWith_eq_ok_lifeSheet .start) rfl
      unchanged
  have before : evaluate lifeSheet.snapshot formula = .ok (.constant 43) := by
    rfl
  have cellText : cell.text = "A0" := by
    decide
  have binds : later.snapshot["A0"]? = some (.constant 7) := by
    rw [← cellText, getElem?_snapshot_text]
    rfl
  have newCell : evaluate later.snapshot (.reference "A0") = .ok (.constant 7) :=
    Expression.evaluate_eq_of_evaluates (.bound binds (.constant 7))
  have changes :
      ¬ Outcome.Same (evaluate lifeSheet.snapshot (.reference "A0"))
        (evaluate later.snapshot (.reference "A0")) := by
    have unbound : evaluate lifeSheet.snapshot (.reference "A0") = .ok (.reference "A0") := by
      rfl
    simp [unbound, newCell, Outcome.Same, Outcome.IsCircular]
  obtain ⟨resolved, ofSheet⟩ := new_bindings_keep_resolved_outcomes
  have after := (resolved _ _ formula extension).left 43 before
  exact ⟨buildWith_eq_ok_lifeSheet, reached, unchanged, extension, before, after, newCell,
    ofSheet _ _ _ _ _ _ _ _ buildWith_eq_ok_lifeSheet .start reached unchanged _ changes⟩

/-! ## What a write of an expression with a value leaves behind -/

/-- The write enters the expression into the cell, which lies inside the grid. -/
inductive Enters (sheet : Sheet) : Write → Address → Expression → Prop where
  | formula {row column : UInt64} {text : String} {address : Address} {expression : Expression} :
      sheet.locate row column = .ok address →
      sheet.parse text = .ok expression →
      Enters sheet (.formula row column text) address expression
  | expression {cell address : Address} {expression : Expression} :
      sheet.locate cell.row cell.columnNumber = .ok address →
      Enters sheet (.expression cell expression) address expression

section Enters

variable
  {sheet : Sheet}
  {write : Write}
  {address : Address}
  {expression : Expression}

theorem Enters.decision_eq_ok
    (enters : sheet.Enters write address expression)
    {kept : Expression}
    (keeps : sheet.kept? expression = some kept) :
    sheet.decision write = .ok (address, kept) := by
  cases enters with
  | formula located parses =>
      exact decision_formula_eq_ok_iff.mpr ⟨located, expression, parses, keeps⟩
  | expression located =>
      exact decision_expression_eq_ok_iff.mpr ⟨located, keeps⟩

theorem kept?_of_evaluate_eq_ok
    {value : Expression}
    (evaluates : evaluate sheet.snapshot expression = .ok value) :
    sheet.kept? expression = some value := by
  rw [kept?, evaluates]

/-- A write is accepted if its expression has a value, and the cell keeps the value. -/
theorem Enters.perform_eq
    (enters : sheet.Enters write address expression)
    {value : Expression}
    (evaluates : evaluate sheet.snapshot expression = .ok value) :
    sheet.perform write = (sheet.keep address value, none) :=
  perform_of_decision_ok (enters.decision_eq_ok (kept?_of_evaluate_eq_ok evaluates))

end Enters

/--
The value of an expression is a number, nothing, or a name without a binding that the expression
reaches; that of an operation is a number, and every value evaluates to itself. So a write of an
expression that has a value leaves no operation in its cell.
-/
theorem values_contain_no_operation :
    (∀ (context : Context) (expression value : Expression),
      evaluate context expression = .ok value →
        Expression.IsFinal context expression value ∧
        (∀ operator first rest,
          expression = .operation operator first rest → ∃ number, value = .constant number) ∧
        evaluate context value = .ok value) ∧
    ∀ (sheet : Sheet) (write : Write) (address : Address) (expression value : Expression),
      sheet.Enters write address expression →
      evaluate sheet.snapshot expression = .ok value →
        sheet.perform write = (sheet.keep address value, none) ∧
        ∀ operator first rest,
          (sheet.perform write).1.expressionAt? address ≠
            some (.operation operator first rest) := by
  constructor
  · intro context expression value evaluates
    have isFinal := Expression.isFinal_of_evaluate evaluates
    refine ⟨isFinal, ?_, isFinal.evaluate_eq⟩
    rintro operator first rest rfl
    exact Expression.exists_constant_of_evaluate_operation evaluates
  · intro sheet write address expression value enters evaluates
    have performs := enters.perform_eq evaluates
    refine ⟨performs, ?_⟩
    intro operator first rest keepsOperation
    have keepsValue : (sheet.perform write).1.expressionAt? address = some value := by
      rw [performs]
      exact Grid.expressionAt?_put_self ..
    rw [keepsValue] at keepsOperation
    exact (Expression.isFinal_of_evaluate evaluates).ne_operation operator first rest
      (Option.some.inj keepsOperation)

theorem lifeSheet_keeps_no_operation :
    let cell : Address := ⟨0, ⟨0, zero_lt_columnLimit⟩⟩
    let formula := Expression.operation .plus (.reference "life") [.constant 1]
    let write := Write.expression cell formula
    lifeSheet.Enters write cell formula ∧
      evaluate lifeSheet.snapshot formula = .ok (.constant 43) ∧
      lifeSheet.perform write = (lifeSheet.keep cell (.constant 43), none) ∧
      evaluate lifeSheet.snapshot (.reference "A0") = .ok (.reference "A0") ∧
      Expression.IsFinal lifeSheet.snapshot (.reference "A0") (.reference "A0") := by
  intro cell formula write
  have enters : lifeSheet.Enters write cell formula :=
    .expression rfl
  have evaluates : evaluate lifeSheet.snapshot formula = .ok (.constant 43) := by
    rfl
  have unbound : evaluate lifeSheet.snapshot (.reference "A0") = .ok (.reference "A0") := by
    rfl
  obtain ⟨ofValue, ofWrite⟩ := values_contain_no_operation
  exact ⟨enters, evaluates, (ofWrite _ _ _ _ _ enters evaluates).left, unbound,
    (ofValue _ _ _ unbound).left⟩

end Spreadsheet.Sheet
