import Spreadsheet.Proofs.Evaluation.NormalForm
import Spreadsheet.Proofs.Run
import Spreadsheet.Proofs.Sheet.FormulaSheet
import Spreadsheet.Proofs.Sheet.Spelling

namespace Spreadsheet

open Grid (exists_locate_eq_ok locate_eq_ok locate_of_outside)

/-!
# Sheets beside formula sheets

A sheet and a formula sheet into which the same formulas are entered refuse the same places and the
same texts. They part where a formula runs in a circle: the sheet refuses it, and the formula sheet
keeps it. So the cells that are written in the sheet are written in the formula sheet too, a cell is
missing if all that was entered into it ran in a circle, and as long as nothing of that kind has been
entered since a cell was written, an operation that the sheet keeps is the one that was entered.
-/

/-- A formula to be entered at a row and a column. -/
structure Entry where
  row : UInt64
  column : UInt64
  text : String
  deriving Repr, DecidableEq

namespace Entry

/-- The formula can be read as the expression, and its place is the cell of the grid. -/
structure Asks
    (entry : Entry)
    (grid : Grid)
    (cell : Address)
    (expression : Expression) : Prop where
  inside : grid.Contains entry.row entry.column
  named : Address.ofIndices? entry.row entry.column = some cell
  parses : Formula.parse entry.text = .ok expression

/-- The formula can be read, and its place is the cell of the grid. -/
def IsReadableAt
    (entry : Entry)
    (grid : Grid)
    (cell : Address) : Prop :=
  ∃ expression, entry.Asks grid cell expression

/-- An entry that asks for a cell is readable there and nowhere else. -/
theorem Asks.isReadableAt_iff
    {entry : Entry}
    {grid : Grid}
    {cell other : Address}
    {expression : Expression}
    (asks : entry.Asks grid cell expression) :
    entry.IsReadableAt grid other ↔ other = cell := by
  constructor
  · rintro ⟨_, otherAsks⟩
    exact Option.some.inj (otherAsks.named.symm.trans asks.named)
  · rintro rfl
    exact ⟨expression, asks⟩

end Entry

/-- The sheet after a formula is entered, and the reason for a refusal. -/
def Sheet.enter
    (sheet : Sheet)
    (entry : Entry) :
    Sheet × Option SheetError :=
  sheet.perform (.formula entry.row entry.column entry.text)

namespace FormulaSheet

/-- The formula sheet after a formula is entered, and the reason for a refusal. -/
def enter
    (sheet : FormulaSheet)
    (entry : Entry) :
    FormulaSheet × Option SheetError :=
  sheet.perform entry.row entry.column entry.text

/-- A cell of the formula sheet has been written. -/
def IsWritten
    (sheet : FormulaSheet)
    (cell : Address) : Prop :=
  (sheet.expressionAt? cell).isSome

/-- The formula sheet with an expression kept in one of its cells. -/
def keep
    (sheet : FormulaSheet)
    (address : Address)
    (expression : Expression) :
    FormulaSheet :=
  { sheet with toGrid := sheet.put address expression }

theorem isWritten_keep_iff
    {sheet : FormulaSheet}
    {address cell : Address}
    {expression : Expression} :
    (sheet.keep address expression).IsWritten cell ↔ cell = address ∨ sheet.IsWritten cell :=
  Grid.isSome_expressionAt?_put_iff _

section Enter

variable
  {sheet : FormulaSheet}
  {entry : Entry}

/-- An entry outside of the grid changes nothing. -/
theorem enter_of_outside
    (outside : ¬ sheet.Contains entry.row entry.column) :
    sheet.enter entry = (sheet, some (.outOfBounds entry.row entry.column)) := by
  simp only [enter, perform, update, place_eq_locate, locate_of_outside outside]
  rfl

/-- An entry that cannot be read changes nothing. -/
theorem enter_of_unreadable
    {cell : Address}
    {cause : FormulaError}
    (located : sheet.locate entry.row entry.column = .ok cell)
    (unreadable : Formula.parse entry.text = .error cause) :
    sheet.enter entry = (sheet, some (.unreadableFormula entry.text cause)) := by
  simp only [enter, perform, update, place_eq_locate, located, unreadable]
  rfl

/-- An entry that can be read is kept as it is. -/
theorem enter_of_readable
    {cell : Address}
    {expression : Expression}
    (located : sheet.locate entry.row entry.column = .ok cell)
    (parses : Formula.parse entry.text = .ok expression) :
    sheet.enter entry = (sheet.keep cell expression, none) := by
  simp only [enter, perform, update, place_eq_locate, located, parses]
  rfl

end Enter

end FormulaSheet

/-- A sheet and a formula sheet have the dimensions of a grid and read formulas in the same way. -/
structure Alike
    (grid : Grid)
    (sheet : Sheet)
    (formulas : FormulaSheet) : Prop where
  rows_eq : sheet.rows = grid.rows
  columns_eq : sheet.columns = grid.columns
  formulaRows_eq : formulas.rows = grid.rows
  formulaColumns_eq : formulas.columns = grid.columns
  parse_eq : sheet.parse = Formula.parse
  columns_le : grid.columns.toNat ≤ columnLimit

/-- What becomes of a formula that is entered into a sheet and into a formula sheet. -/
inductive EntersTogether
    (grid : Grid)
    (sheet : Sheet)
    (formulas : FormulaSheet)
    (entry : Entry) :
    Sheet × Option SheetError → FormulaSheet × Option SheetError → Prop where
  | outside :
      ¬ grid.Contains entry.row entry.column →
      EntersTogether grid sheet formulas entry
        (sheet, some (.outOfBounds entry.row entry.column))
        (formulas, some (.outOfBounds entry.row entry.column))
  | unreadable {cause : FormulaError} :
      Formula.parse entry.text = .error cause →
      EntersTogether grid sheet formulas entry
        (sheet, some (.unreadableFormula entry.text cause))
        (formulas, some (.unreadableFormula entry.text cause))
  | circular {cell : Address} {expression : Expression} :
      entry.Asks grid cell expression →
      EntersTogether grid sheet formulas entry
        (sheet, some (.circularReference entry.text))
        (formulas.keep cell expression, none)
  | kept {cell : Address} {expression kept : Expression} :
      entry.Asks grid cell expression →
      sheet.Keeps expression kept →
      EntersTogether grid sheet formulas entry
        (sheet.keep cell kept, none)
        (formulas.keep cell expression, none)

/-- Sheets that are alike take an entry in the same way. -/
theorem Alike.entersTogether
    {grid : Grid}
    {sheet : Sheet}
    {formulas : FormulaSheet}
    (alike : Alike grid sheet formulas)
    (entry : Entry) :
    EntersTogether grid sheet formulas entry (sheet.enter entry) (formulas.enter entry) := by
  have sheetContains :
      sheet.Contains entry.row entry.column ↔ grid.Contains entry.row entry.column := by
    simp only [Grid.Contains, alike.rows_eq, alike.columns_eq]
  have formulasContain :
      formulas.Contains entry.row entry.column ↔ grid.Contains entry.row entry.column := by
    simp only [Grid.Contains, alike.formulaRows_eq, alike.formulaColumns_eq]
  have named : sheet.columns.toNat ≤ columnLimit := by
    rw [alike.columns_eq]
    exact alike.columns_le
  have formulasNamed : formulas.columns.toNat ≤ columnLimit := by
    rw [alike.formulaColumns_eq]
    exact alike.columns_le
  have decides := Sheet.decides_decision_formula named entry.row entry.column entry.text
  generalize changes :
    sheet.decision (.formula entry.row entry.column entry.text) = decision at decides
  unfold Sheet.enter
  cases decides with
  | outside outside =>
      have gridOutside := mt sheetContains.mpr outside
      rw [Sheet.perform_of_decision_error changes,
        FormulaSheet.enter_of_outside (mt formulasContain.mp gridOutside)]
      exact .outside gridOutside
  | unreadable inside unreadable =>
      obtain ⟨cell, located⟩ :=
        exists_locate_eq_ok formulasNamed (formulasContain.mpr (sheetContains.mp inside))
      rw [alike.parse_eq] at unreadable
      rw [Sheet.perform_of_decision_error changes,
        FormulaSheet.enter_of_unreadable located unreadable]
      exact .unreadable unreadable
  | circular inside parses _ =>
      obtain ⟨cell, located⟩ :=
        exists_locate_eq_ok formulasNamed (formulasContain.mpr (sheetContains.mp inside))
      rw [alike.parse_eq] at parses
      rw [Sheet.perform_of_decision_error changes,
        FormulaSheet.enter_of_readable located parses]
      exact .circular ⟨sheetContains.mp inside, (locate_eq_ok located).2, parses⟩
  | kept inside isAddress parses _ keeps =>
      obtain ⟨cell, located⟩ :=
        exists_locate_eq_ok formulasNamed (formulasContain.mpr (sheetContains.mp inside))
      obtain rfl := Option.some.inj (isAddress.symm.trans (locate_eq_ok located).2)
      rw [alike.parse_eq] at parses
      rw [Sheet.perform_of_decision_ok changes,
        FormulaSheet.enter_of_readable located parses]
      exact .kept ⟨sheetContains.mp inside, isAddress, parses⟩ keeps

/-! ## What a log says about a cell -/

/-- The formulas that have been entered, each with the reason for which the sheet refused it, if so. -/
abbrev EntryLog := List (Entry × Option SheetError)

/-- A formula was accepted for the cell, and none has been refused for it as circular since then. -/
def HasNoCircleSinceWrite
    (grid : Grid)
    (log : EntryLog)
    (cell : Address) : Prop :=
  ∃ before write later,
    log = before ++ (write, none) :: later ∧
    write.IsReadableAt grid cell ∧
    ∀ logged ∈ later,
      logged.1.IsReadableAt grid cell → logged.2 ≠ some (.circularReference logged.1.text)

/-- The last formula was accepted for the cell, or it did not run in a circle there. -/
theorem HasNoCircleSinceWrite.of_append
    {grid : Grid}
    {log : EntryLog}
    {entry : Entry}
    {outcome : Option SheetError}
    {cell : Address}
    (noCircle : HasNoCircleSinceWrite grid (log ++ [(entry, outcome)]) cell) :
    (entry.IsReadableAt grid cell ∧ outcome = none) ∨
      (HasNoCircleSinceWrite grid log cell ∧
        (entry.IsReadableAt grid cell → outcome ≠ some (.circularReference entry.text))) := by
  obtain ⟨before, write, later, isLog, isReadable, noneCircular⟩ := noCircle
  rcases List.eq_nil_or_concat later with rfl | ⟨others, last, rfl⟩
  · obtain ⟨-, isLast⟩ := List.append_inj' isLog rfl
    obtain ⟨rfl, rfl⟩ := Prod.mk.inj (List.singleton_inj.mp isLast)
    exact Or.inl ⟨isReadable, rfl⟩
  · rw [List.concat_eq_append, ← List.cons_append, ← List.append_assoc] at isLog
    obtain ⟨isBefore, isLast⟩ := List.append_inj' isLog rfl
    obtain rfl := List.singleton_inj.mp isLast
    simp only [List.concat_eq_append] at noneCircular
    refine Or.inr ⟨⟨before, write, others, isBefore, isReadable, ?_⟩, ?_⟩
    · intro logged member
      exact noneCircular logged (List.mem_append_left _ member)
    · exact noneCircular (entry, outcome) (by simp)

theorem Sheet.Keeps.eq_of_operation
    {sheet : Sheet}
    {expression : Expression}
    {operator : Operator}
    {first : Expression}
    {rest : List Expression}
    (keeps : sheet.Keeps expression (.operation operator first rest)) :
    expression = .operation operator first rest := by
  rcases keeps with evaluates | ⟨isExpression, _⟩
  · exact absurd evaluates (Expression.evaluate_ne_operation _ _ _ _ _)
  · exact isExpression.symm

/-- How the cells of a sheet and of a formula sheet follow from the log of what was entered. -/
structure Follows
    (grid : Grid)
    (log : EntryLog)
    (sheet : Sheet)
    (formulas : FormulaSheet) : Prop where
  alike : Alike grid sheet formulas
  outcome_cases :
    ∀ logged ∈ log, ∀ cell, logged.1.IsReadableAt grid cell →
      logged.2 = none ∨ logged.2 = some (.circularReference logged.1.text)
  isWritten_iff :
    ∀ cell, sheet.IsWritten cell ↔
      ∃ logged ∈ log, logged.1.IsReadableAt grid cell ∧ logged.2 = none
  isFormulaWritten_iff :
    ∀ cell, formulas.IsWritten cell ↔ ∃ logged ∈ log, logged.1.IsReadableAt grid cell
  operation_eq :
    ∀ cell, HasNoCircleSinceWrite grid log cell →
      ∀ operator first rest,
        sheet.expressionAt? cell = some (.operation operator first rest) →
          formulas.expressionAt? cell = some (.operation operator first rest)

namespace Follows

variable
  {grid : Grid}
  {log : EntryLog}
  {sheet : Sheet}
  {formulas : FormulaSheet}
  {entry : Entry}

/-- Sheets without written cells follow the empty log. -/
theorem start
    (alike : Alike grid sheet formulas)
    (noneWritten : ∀ cell, sheet.expressionAt? cell = none)
    (noneFormulaWritten : ∀ cell, formulas.expressionAt? cell = none) :
    Follows grid [] sheet formulas where
  alike := alike
  outcome_cases := by simp
  isWritten_iff := by simp [Sheet.IsWritten, noneWritten]
  isFormulaWritten_iff := by simp [FormulaSheet.IsWritten, noneFormulaWritten]
  operation_eq := by simp [noneWritten]

/-- A formula that is outside the grid or unreadable leaves both sheets as they are. -/
theorem append_unreadable
    (follows : Follows grid log sheet formulas)
    (unreadable : ∀ cell, ¬ entry.IsReadableAt grid cell)
    (outcome : Option SheetError) :
    Follows grid (log ++ [(entry, outcome)]) sheet formulas where
  alike := follows.alike
  outcome_cases := by
    intro logged member
    rcases List.mem_append.mp member with before | isLast
    · exact follows.outcome_cases logged before
    · obtain rfl := List.mem_singleton.mp isLast
      exact fun cell isReadable => absurd isReadable (unreadable cell)
  isWritten_iff := by
    intro cell
    simp [follows.isWritten_iff, or_and_right, exists_or, unreadable]
  isFormulaWritten_iff := by
    intro cell
    simp [follows.isFormulaWritten_iff, or_and_right, exists_or, unreadable]
  operation_eq := by
    intro cell noCircle
    rcases noCircle.of_append with ⟨isReadable, _⟩ | ⟨noCircleBefore, _⟩
    · exact absurd isReadable (unreadable cell)
    · exact follows.operation_eq cell noCircleBefore

/-- A formula that runs in a circle is kept by the formula sheet alone. -/
theorem append_circular
    {cell : Address}
    {expression : Expression}
    (follows : Follows grid log sheet formulas)
    (asks : entry.Asks grid cell expression) :
    Follows grid (log ++ [(entry, some (.circularReference entry.text))])
      sheet (formulas.keep cell expression) where
  alike := { follows.alike with }
  outcome_cases := by
    intro logged member
    rcases List.mem_append.mp member with before | isLast
    · exact follows.outcome_cases logged before
    · obtain rfl := List.mem_singleton.mp isLast
      exact fun _ _ => Or.inr rfl
  isWritten_iff := by
    intro other
    simp [follows.isWritten_iff, or_and_right, exists_or]
  isFormulaWritten_iff := by
    intro other
    simp [FormulaSheet.isWritten_keep_iff, follows.isFormulaWritten_iff, or_and_right, exists_or,
      asks.isReadableAt_iff, or_comm]
  operation_eq := by
    intro other noCircle operator first rest written
    rcases noCircle.of_append with ⟨_, isAccepted⟩ | ⟨noCircleBefore, notCircular⟩
    · contradiction
    · have different : cell ≠ other := by
        rintro rfl
        exact notCircular ⟨expression, asks⟩ rfl
      have before := follows.operation_eq other noCircleBefore operator first rest written
      exact (Grid.expressionAt?_put_of_ne _ _ different).trans before

/-- A formula that is accepted by both is kept by the formula sheet as it was entered. -/
theorem append_kept
    {cell : Address}
    {expression kept : Expression}
    (follows : Follows grid log sheet formulas)
    (asks : entry.Asks grid cell expression)
    (keeps : sheet.Keeps expression kept) :
    Follows grid (log ++ [(entry, none)]) (sheet.keep cell kept)
      (formulas.keep cell expression) where
  alike := { follows.alike with }
  outcome_cases := by
    intro logged member
    rcases List.mem_append.mp member with before | isLast
    · exact follows.outcome_cases logged before
    · obtain rfl := List.mem_singleton.mp isLast
      exact fun _ _ => Or.inl rfl
  isWritten_iff := by
    intro other
    simp [Sheet.isWritten_keep_iff, follows.isWritten_iff, or_and_right, exists_or,
      asks.isReadableAt_iff, or_comm]
  isFormulaWritten_iff := by
    intro other
    simp [FormulaSheet.isWritten_keep_iff, follows.isFormulaWritten_iff, or_and_right, exists_or,
      asks.isReadableAt_iff, or_comm]
  operation_eq := by
    intro other noCircle operator first rest written
    by_cases isTarget : cell = other
    · subst isTarget
      have isKept := (Grid.expressionAt?_put_self _ _ _).symm.trans written
      obtain rfl := Option.some.inj isKept
      rw [keeps.eq_of_operation]
      exact Grid.expressionAt?_put_self _ _ _
    · have writtenBefore := (Grid.expressionAt?_put_of_ne _ _ isTarget).symm.trans written
      have noCircleBefore : HasNoCircleSinceWrite grid log other := by
        rcases noCircle.of_append with ⟨isReadable, _⟩ | ⟨noCircleBefore, _⟩
        · exact absurd (asks.isReadableAt_iff.mp isReadable).symm isTarget
        · exact noCircleBefore
      have before := follows.operation_eq other noCircleBefore operator first rest writtenBefore
      exact (Grid.expressionAt?_put_of_ne _ _ isTarget).trans before

/-- Whatever is entered next, the cells of both sheets still follow from the log. -/
theorem enter
    (follows : Follows grid log sheet formulas)
    (entry : Entry) :
    Follows grid (log ++ [(entry, (sheet.enter entry).2)])
      (sheet.enter entry).1 (formulas.enter entry).1 := by
  have together := follows.alike.entersTogether entry
  generalize sheet.enter entry = sheetAfter, formulas.enter entry = formulasAfter at together ⊢
  cases together with
  | outside outside =>
      apply follows.append_unreadable
      rintro cell ⟨expression, asks⟩
      exact outside asks.inside
  | unreadable unreadable =>
      apply follows.append_unreadable
      rintro cell ⟨expression, asks⟩
      simp [asks.parses] at unreadable
  | circular asks =>
      exact follows.append_circular asks
  | kept asks keeps =>
      exact follows.append_kept asks keeps

/-- Sheets that follow a log still do so after more entries. -/
theorem run
    (follows : Follows grid log sheet formulas)
    (entries : List Entry) :
    Follows grid (log ++ Run.log Sheet.enter sheet entries)
      (Run.final Sheet.enter sheet entries) (Run.final FormulaSheet.enter formulas entries) := by
  induction entries generalizing log sheet formulas with
  | nil =>
      simpa [Run.log, Run.final] using follows
  | cons entry later inductionHypothesis =>
      simpa [Run.log, Run.final] using inductionHypothesis (follows.enter entry)

end Follows

/-! ## Refinement -/

/-- The two sheets refuse a formula for the same reason, unless it runs in a circle. -/
structure FailsAlike
    (sheet : Sheet)
    (formulas : FormulaSheet)
    (entry : Entry) : Prop where
  outOfBounds_iff :
    ∀ row column,
      (formulas.enter entry).2 = some (.outOfBounds row column) ↔
        (sheet.enter entry).2 = some (.outOfBounds row column)
  unreadableFormula_iff :
    ∀ text cause,
      (formulas.enter entry).2 = some (.unreadableFormula text cause) ↔
        (sheet.enter entry).2 = some (.unreadableFormula text cause)
  accepted_iff :
    (formulas.enter entry).2 = none ↔
      (sheet.enter entry).2 = none ∨
        ∃ text, (sheet.enter entry).2 = some (.circularReference text)

/-- Sheets that are alike fail for the same reasons, circles apart. -/
theorem Alike.failsAlike
    {grid : Grid}
    {sheet : Sheet}
    {formulas : FormulaSheet}
    (alike : Alike grid sheet formulas)
    (entry : Entry) :
    FailsAlike sheet formulas entry := by
  have together := alike.entersTogether entry
  generalize sheetEnters : sheet.enter entry = sheetAfter at together
  generalize formulasEnter : formulas.enter entry = formulasAfter at together
  cases together <;> constructor <;> simp [sheetEnters, formulasEnter]

/-- A new sheet is like the formula sheet of its dimensions and its filler. -/
theorem alike_of_build
    {rows columns : UInt64}
    {filler : Expression}
    {builtIns : List (String × Expression)}
    {initial : Sheet}
    (built : Sheet.build rows columns filler builtIns = .ok initial) :
    Alike (Grid.blank rows columns filler) initial (.blank rows columns filler) := by
  obtain ⟨columnsLe, isBlank⟩ := Sheet.eq_blank_of_build_eq_ok built
  rw [isBlank]
  exact ⟨rfl, rfl, rfl, rfl, rfl, columnsLe⟩

theorem follows_of_build
    {rows columns : UInt64}
    {filler : Expression}
    {builtIns : List (String × Expression)}
    {initial : Sheet}
    (built : Sheet.build rows columns filler builtIns = .ok initial)
    (entries : List Entry) :
    Follows (Grid.blank rows columns filler) (Run.log Sheet.enter initial entries)
      (Run.final Sheet.enter initial entries)
      (Run.final FormulaSheet.enter (.blank rows columns filler) entries) := by
  apply (Follows.start (alike_of_build built) ?_ ?_).run
  · exact Sheet.expressionAt?_of_build_eq_ok built
  · intro cell
    simp [FormulaSheet.blank, Grid.blank, Grid.expressionAt?]

/--
A new sheet and a new formula sheet into which the same formulas are entered refuse the next one for
the same reason; only if the formula runs in a circle does the formula sheet accept what the sheet
refuses. The cells written in the sheet are written in the formula sheet. Those that are missing in
the sheet are the ones into which something readable was entered and nothing else than circles. An
operation in a cell of the sheet that no circle was entered into since it was written is in the
formula sheet, too.
-/
theorem Sheet.refines_formulaSheet
    {rows columns : UInt64}
    {filler : Expression}
    {builtIns : List (String × Expression)}
    {initial : Sheet}
    (built : Sheet.build rows columns filler builtIns = .ok initial)
    (entries : List Entry) :
    let grid := Grid.blank rows columns filler
    let log := Run.log Sheet.enter initial entries
    let sheet := Run.final Sheet.enter initial entries
    let formulas := Run.final FormulaSheet.enter (.blank rows columns filler) entries
    (∀ entry, FailsAlike sheet formulas entry) ∧
    (∀ cell, sheet.IsWritten cell → formulas.IsWritten cell) ∧
    (∀ cell, formulas.IsWritten cell ∧ ¬ sheet.IsWritten cell ↔
      (∃ logged ∈ log, logged.1.IsReadableAt grid cell) ∧
        ∀ logged ∈ log, logged.1.IsReadableAt grid cell →
          logged.2 = some (.circularReference logged.1.text)) ∧
    (∀ cell, HasNoCircleSinceWrite grid log cell →
      ∀ operator first rest,
        sheet.expressionAt? cell = some (.operation operator first rest) →
          formulas.expressionAt? cell = some (.operation operator first rest)) := by
  intro grid log sheet formulas
  have follows : Follows grid log sheet formulas := follows_of_build built entries
  refine ⟨follows.alike.failsAlike, ?_, ?_, follows.operation_eq⟩
  · intro cell isWritten
    obtain ⟨logged, member, isReadable, _⟩ := (follows.isWritten_iff cell).mp isWritten
    exact (follows.isFormulaWritten_iff cell).mpr ⟨logged, member, isReadable⟩
  · intro cell
    rw [follows.isFormulaWritten_iff, follows.isWritten_iff]
    constructor
    · rintro ⟨isEntered, notWritten⟩
      refine ⟨isEntered, ?_⟩
      intro logged member isReadable
      apply (follows.outcome_cases logged member cell isReadable).resolve_left
      exact fun isAccepted => notWritten ⟨logged, member, isReadable, isAccepted⟩
    · rintro ⟨isEntered, allCircular⟩
      refine ⟨isEntered, ?_⟩
      rintro ⟨logged, member, isReadable, isAccepted⟩
      have isCircular := allCircular logged member isReadable
      simp [isAccepted] at isCircular

/-- A cell that reads itself, and a second one that reads the first and is missing in the sheet. -/
theorem Sheet.lifeSheet_refines_formulaSheet :
    let first : Entry := ⟨0, 0, "A0"⟩
    let second : Entry := ⟨0, 1, "A0"⟩
    let cell : Address := ⟨0, ⟨1, one_lt_columnLimit⟩⟩
    Sheet.build 3 3 .empty [("life", .constant 42)] = .ok lifeSheet ∧
      Run.log Sheet.enter lifeSheet [first, second] =
        [(first, none), (second, some (.circularReference "A0"))] ∧
      (Run.final FormulaSheet.enter (.blank 3 3 .empty) [first, second]).IsWritten cell ∧
      ¬ (Run.final Sheet.enter lifeSheet [first, second]).IsWritten cell := by
  intro first second cell
  have spelled : Address.ofText? "A0" = some ⟨0, ⟨0, zero_lt_columnLimit⟩⟩ := by
    rfl
  have parses : Formula.parse "A0" = .ok (.reference "A0") :=
    Formula.parse_of_isName (Address.isName_of_ofText?_eq_some spelled)
  have firstEnters :
      lifeSheet.enter first =
        (lifeSheet.keep ⟨0, ⟨0, zero_lt_columnLimit⟩⟩ (.reference "A0"), none) :=
    perform_of_decision_ok (decision_formula_eq_ok_iff.mpr ⟨rfl, _, parses, rfl⟩)
  have secondEnters :
      ((lifeSheet.keep ⟨0, ⟨0, zero_lt_columnLimit⟩⟩ (.reference "A0")).enter second).2 =
        some (.circularReference "A0") :=
    (updatesExactly (by decide) 0 1 "A0").circularReference_iff.mpr
      ⟨by decide, _, parses, "A0", rfl⟩
  have isLog :
      Run.log Sheet.enter lifeSheet [first, second] =
        [(first, none), (second, some (.circularReference "A0"))] := by
    simp only [Run.log, firstEnters, secondEnters]
  have isAt : second.Asks (Grid.blank 3 3 .empty) cell (.reference "A0") :=
    ⟨by decide, rfl, parses⟩
  obtain ⟨-, -, missing, -⟩ := Sheet.refines_formulaSheet buildWith_eq_ok_lifeSheet [first, second]
  refine ⟨buildWith_eq_ok_lifeSheet, isLog, (missing cell).mpr ⟨?_, ?_⟩⟩
  · exact ⟨(second, some (.circularReference "A0")), by simp [isLog], _, isAt⟩
  · intro logged member isReadable
    rw [isLog] at member
    rcases List.mem_cons.mp member with rfl | isSecond
    · obtain ⟨_, firstAsks⟩ := isReadable
      exact absurd firstAsks.named (by decide)
    · obtain rfl := List.mem_singleton.mp isSecond
      rfl

end Spreadsheet
