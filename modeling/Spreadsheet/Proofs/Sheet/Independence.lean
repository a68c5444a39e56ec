import Spreadsheet.Proofs.Evaluation.Agreement
import Spreadsheet.Proofs.Formula.NormalForm
import Spreadsheet.Proofs.Sheet.BuiltIns
import Spreadsheet.Proofs.Sheet.Dependents

namespace Spreadsheet.Sheet

open Expression (Reaches)
open Grid (locate_eq_ok)

/-!
# Cells that do not affect each other

What the snapshot binds to a name affects an expression only if the expression reaches the name. A
cell that reaches an address is found by the search for dependents of the address, and two formulas
that reach neither each other's places can be written in either order.
-/

/-! ## Cells that are no dependents -/

/-- A cell from which an address can be reached depends on the address. -/
theorem dependsOn_of_reaches
    {sheet : Sheet}
    (closed : sheet.HasClosedBuiltIns)
    {cell address : Address}
    {expression : Expression}
    (written : sheet.expressionAt? cell = some expression)
    (reaches : Reaches sheet.snapshot expression address.text) :
    sheet.DependsOn cell address := by
  obtain ⟨start, inExpression, path⟩ := reaches
  induction path using Relation.ReflTransGen.head_induction_on generalizing cell expression with
  | refl =>
      exact .single ⟨expression, written, inExpression⟩
  | head reads _ inductionHypothesis =>
      -- A name that reads another one is not built in, so it is the address of a cell.
      obtain ⟨binding, binds, inBinding⟩ := reads
      rcases getElem?_snapshot_eq_some binds with ⟨next, rfl, nextWritten⟩ | isBuiltIn
      · exact .head ⟨expression, written, inExpression⟩ (inductionHypothesis nextWritten inBinding)
      · exact absurd inBinding (closed _ binding isBuiltIn _)

/--
The built-ins of a configuration read no names. In a sheet with such built-ins a cell that is not
among the dependents of an address evaluates to the same whatever the address is bound to.
-/
theorem evaluate_ignores_nondependents :
    (∀ (config : Config) (initial sheet : Sheet),
      config.buildSheet = .ok initial → ReachedFrom initial sheet → sheet.HasClosedBuiltIns) ∧
    ∀ sheet : Sheet, sheet.HasClosedBuiltIns →
      ∀ address cell expression,
        sheet.expressionAt? cell = some expression →
        cell ∉ sheet.dependents address →
        ∀ other : Expression,
          Outcome.Same (expression.evaluate sheet.snapshot)
            (expression.evaluate (sheet.snapshot.insert address.text other)) := by
  refine ⟨fun _ _ _ => hasClosedBuiltIns_of_buildSheet, ?_⟩
  intro sheet closed address cell expression written isIndependent other
  apply Expression.evaluate_insert_same
  intro reaches
  exact isIndependent (mem_dependents_iff.mpr (dependsOn_of_reaches closed written reaches))

/-- A sheet in which the second cell of a row reads the first one. -/
def readingSheet : Sheet :=
  (lifeSheet.perform (.expression ⟨0, ⟨1, one_lt_columnLimit⟩⟩ (.reference "A0"))).1

theorem readingSheet_ignores_nondependents :
    let config : Config := ⟨3, 3, (∅ : Std.ExtTreeMap String Int64).insert "life" 42⟩
    let reader : Address := ⟨0, ⟨1, by decide⟩⟩
    let address : Address := ⟨0, ⟨2, by decide⟩⟩
    config.buildSheet = .ok lifeSheet ∧
      ReachedFrom lifeSheet readingSheet ∧
      readingSheet.expressionAt? reader = some (.reference "A0") ∧
      reader ∉ readingSheet.dependents address ∧
      ∀ other : Expression,
        Outcome.Same ((Expression.reference "A0").evaluate readingSheet.snapshot)
          ((Expression.reference "A0").evaluate
            (readingSheet.snapshot.insert address.text other)) := by
  intro config reader address
  have reached : ReachedFrom lifeSheet readingSheet :=
    .perform _ .start
  have written : readingSheet.expressionAt? reader = some (.reference "A0") := by
    rfl
  have listed : readingSheet.IsListedBy [(reader, .reference "A0")] :=
    List.Perm.refl _
  have isIndependent : reader ∉ readingSheet.dependents address := by
    rw [← (iterate_step_finds_dependents listed address (Nat.le_refl _)).right]
    decide
  have closed := evaluate_ignores_nondependents.left _ _ _ buildSheet_eq_ok_lifeSheet reached
  exact ⟨buildSheet_eq_ok_lifeSheet, reached, written, isIndependent,
    evaluate_ignores_nondependents.right readingSheet closed address reader _ written
      isIndependent⟩

/-! ## Formulas that do not reach each other's places -/

/-- What the formula means in the sheet reaches the name. -/
def FormulaReaches
    (sheet : Sheet)
    (text name : String) : Prop :=
  ∃ expression, sheet.parse text = .ok expression ∧ Reaches sheet.snapshot expression name

theorem formulaReaches_iff_of_parse
    {sheet : Sheet}
    {text name : String}
    {expression : Expression}
    (parses : sheet.parse text = .ok expression) :
    sheet.FormulaReaches text name ↔ Reaches sheet.snapshot expression name := by
  simp only [FormulaReaches, parses, Except.ok.injEq, exists_eq_left']

theorem kept?_keep
    {sheet : Sheet}
    {address : Address}
    {expression : Expression}
    (notReached : ¬ Reaches sheet.snapshot expression address.text)
    (kept : Expression) :
    (sheet.keep address kept).kept? expression = sheet.kept? expression := by
  have same := Expression.evaluate_insert_same notReached kept
  unfold kept?
  rw [snapshot_keep]
  rcases same with equal | ⟨⟨name, circular⟩, ⟨otherName, otherCircular⟩⟩
  · rw [equal]
  · simp only [circular, otherCircular]

/-- What becomes of a formula is not changed by a write to a cell that it does not reach. -/
theorem decision_formula_keep
    {sheet : Sheet}
    {address : Address}
    {text : String}
    (notReached : ¬ sheet.FormulaReaches text address.text)
    (kept : Expression)
    (row column : UInt64) :
    (sheet.keep address kept).decision (.formula row column text) =
      sheet.decision (.formula row column text) := by
  have located : (sheet.keep address kept).locate row column = sheet.locate row column := rfl
  have parsed : (sheet.keep address kept).parse text = sheet.parse text := rfl
  simp only [decision, located, parsed]
  cases parses : sheet.parse text with
  | error cause =>
      rfl
  | ok expression =>
      have sameKept : (sheet.keep address kept).kept? expression = sheet.kept? expression :=
        kept?_keep (fun reaches => notReached ⟨expression, parses, reaches⟩) kept
      simp only [mapError_ok, bind, Except.bind, keptAt, sameKept]

theorem keep_comm
    {sheet : Sheet}
    {first second : Address}
    (different : first ≠ second)
    (firstKept secondKept : Expression) :
    (sheet.keep first firstKept).keep second secondKept =
      (sheet.keep second secondKept).keep first firstKept := by
  have sameCells :
      (sheet.cells.insert first firstKept).insert second secondKept =
        (sheet.cells.insert second secondKept).insert first firstKept := by
    apply Std.ExtTreeMap.ext_getElem?
    intro cell
    simp only [Std.ExtTreeMap.getElem?_insert, Std.LawfulEqCmp.compare_eq_iff_eq]
    by_cases isFirst : first = cell
    · subst isFirst
      simp [different.symm]
    · simp [isFirst]
  simp only [keep, Grid.put, sameCells]

/-- Two writes can change places if neither changes what becomes of the other. -/
theorem perform_comm
    {sheet : Sheet}
    {first second : Write}
    (firstUnaffected :
      ∀ address kept, sheet.decision second = .ok (address, kept) →
        (sheet.keep address kept).decision first = sheet.decision first)
    (secondUnaffected :
      ∀ address kept, sheet.decision first = .ok (address, kept) →
        (sheet.keep address kept).decision second = sheet.decision second)
    (different :
      ∀ firstAddress firstKept secondAddress secondKept,
        sheet.decision first = .ok (firstAddress, firstKept) →
        sheet.decision second = .ok (secondAddress, secondKept) →
          firstAddress ≠ secondAddress) :
    ((sheet.perform second).1.perform first).2 = (sheet.perform first).2 ∧
    ((sheet.perform first).1.perform second).2 = (sheet.perform second).2 ∧
    ((sheet.perform first).1.perform second).1 = ((sheet.perform second).1.perform first).1 := by
  cases firstChanges : sheet.decision first with
  | error firstCause =>
      have firstPerforms := perform_of_decision_error firstChanges
      cases secondChanges : sheet.decision second with
      | error secondCause =>
          have secondPerforms := perform_of_decision_error secondChanges
          simp only [firstPerforms, secondPerforms, and_self]
      | ok change =>
          have secondPerforms := perform_of_decision_ok secondChanges
          have firstAfter := firstUnaffected _ _ secondChanges
          rw [firstChanges] at firstAfter
          simp only [firstPerforms, secondPerforms, perform_of_decision_error firstAfter, and_self]
  | ok firstChange =>
      have firstPerforms := perform_of_decision_ok firstChanges
      have secondAfter := secondUnaffected _ _ firstChanges
      cases secondChanges : sheet.decision second with
      | error secondCause =>
          have secondPerforms := perform_of_decision_error secondChanges
          rw [secondChanges] at secondAfter
          simp only [firstPerforms, secondPerforms, perform_of_decision_error secondAfter, and_self]
      | ok secondChange =>
          have secondPerforms := perform_of_decision_ok secondChanges
          have firstAfter := firstUnaffected _ _ secondChanges
          rw [firstChanges] at firstAfter
          rw [secondChanges] at secondAfter
          simp only [firstPerforms, secondPerforms, perform_of_decision_ok firstAfter,
            perform_of_decision_ok secondAfter, true_and]
          exact keep_comm (different _ _ _ _ firstChanges secondChanges) _ _

/--
Two formulas for different places, neither of which reaches the place of the other, come to the same
in either order: both are accepted, or refused for the same reasons, and the cells are the same.
-/
theorem independent_updates_commute
    {sheet : Sheet}
    {firstRow firstColumn secondRow secondColumn : UInt64}
    {firstText secondText : String}
    (different : (firstRow, firstColumn) ≠ (secondRow, secondColumn))
    (firstIndependent :
      ∀ address, Address.ofIndices? secondRow secondColumn = some address →
        ¬ sheet.FormulaReaches firstText address.text)
    (secondIndependent :
      ∀ address, Address.ofIndices? firstRow firstColumn = some address →
        ¬ sheet.FormulaReaches secondText address.text) :
    let first := Write.formula firstRow firstColumn firstText
    let second := Write.formula secondRow secondColumn secondText
    ((sheet.perform second).1.perform first).2 = (sheet.perform first).2 ∧
    ((sheet.perform first).1.perform second).2 = (sheet.perform second).2 ∧
    ((sheet.perform first).1.perform second).1 = ((sheet.perform second).1.perform first).1 := by
  intro first second
  apply perform_comm
  · intro address kept secondChanges
    have located := locate_eq_ok (locate_of_decision_formula_eq_ok secondChanges)
    exact decision_formula_keep (firstIndependent address located.2) kept firstRow firstColumn
  · intro address kept firstChanges
    have located := locate_eq_ok (locate_of_decision_formula_eq_ok firstChanges)
    exact decision_formula_keep (secondIndependent address located.2) kept secondRow secondColumn
  · intro firstAddress firstKept secondAddress secondKept firstChanges secondChanges sameAddress
    subst sameAddress
    have firstNamed := (locate_eq_ok (locate_of_decision_formula_eq_ok firstChanges)).2
    have secondNamed := (locate_eq_ok (locate_of_decision_formula_eq_ok secondChanges)).2
    obtain ⟨rfl, rfl⟩ := Address.of_ofIndices?_eq_some firstNamed
    obtain ⟨rfl, rfl⟩ := Address.of_ofIndices?_eq_some secondNamed
    exact different rfl

theorem lifeSheet_updates_commute :
    let first := Write.formula 0 0 "1"
    let second := Write.formula 0 1 "life"
    (∀ name, ¬ lifeSheet.FormulaReaches "1" name) ∧
      (∀ name, lifeSheet.FormulaReaches "life" name → name = "life") ∧
      ((lifeSheet.perform second).1.perform first).2 = (lifeSheet.perform first).2 ∧
      ((lifeSheet.perform first).1.perform second).2 = (lifeSheet.perform second).2 ∧
      ((lifeSheet.perform first).1.perform second).1 =
        ((lifeSheet.perform second).1.perform first).1 := by
  intro first second
  have number : lifeSheet.parse "1" = .ok (.constant 1) :=
    Formula.parse_render_of_isNormal (Or.inr (.constant 1))
  have alphanumeric : ∀ character ∈ "life".toList, Text.isAlphanumeric character = true :=
    fun _ member =>
      Text.isAlphanumeric_of_isAlphanum (List.all_eq_true.mp (by decide) _ member)
  have isName : Formula.IsName "life".toList :=
    ⟨by decide, alphanumeric, Formula.literal?_eq_none_iff.mp (by decide)⟩
  have builtIn : lifeSheet.parse "life" = .ok (.reference "life") :=
    Formula.parse_render_of_isNormal (Or.inr (.reference isName))
  have binds : lifeSheet.snapshot["life"]? = some (.constant 42) := by
    rfl
  have numberReaches : ∀ name, ¬ lifeSheet.FormulaReaches "1" name := by
    intro name
    rw [formulaReaches_iff_of_parse number]
    exact Expression.not_reaches_constant
  have builtInReaches : ∀ name, lifeSheet.FormulaReaches "life" name → name = "life" := by
    intro name
    rw [formulaReaches_iff_of_parse builtIn, Expression.reaches_reference_iff,
      Relation.reflTransGen_iff_eq_or_transGen]
    rintro (isLife | path)
    · exact isLife
    · have inBinding := Expression.reaches_binding_of_transGen binds path
      exact absurd inBinding Expression.not_reaches_constant
  refine ⟨numberReaches, builtInReaches, ?_⟩
  apply independent_updates_commute (by decide)
  · exact fun address _ => numberReaches address.text
  · intro address named isReached
    obtain rfl := Option.some.inj named
    exact absurd (builtInReaches _ isReached) (by decide)

end Spreadsheet.Sheet
