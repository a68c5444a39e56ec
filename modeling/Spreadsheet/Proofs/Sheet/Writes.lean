import Spreadsheet.Proofs.Evaluation.Outcome
import Spreadsheet.Proofs.Sheet.Snapshot
import Spreadsheet.View

namespace Spreadsheet

/-!
# Writing to a sheet

A write is refused and changes nothing, or it changes what one cell of the sheet keeps. Which of the
two happens is decided on the sheet as it was before: first by the place, then by the formula, then
by what the formula evaluates to. Whatever is written to a sheet, its written cells stay written and
lie inside the grid, and all that does not belong to cells stays as it was built.
-/

/-- The place lies inside the grid. -/
def Grid.Contains
    (grid : Grid)
    (row column : UInt64) : Prop :=
  row < grid.rows ∧ column < grid.columns

instance
    (grid : Grid)
    (row column : UInt64) :
    Decidable (grid.Contains row column) :=
  inferInstanceAs (Decidable (row < grid.rows ∧ column < grid.columns))

section MapError

variable {α Cause OtherCause : Type}

theorem mapError_ok
    (rename : Cause → OtherCause)
    (value : α) :
    (Except.ok value).mapError rename = .ok value :=
  rfl

theorem mapError_error
    (rename : Cause → OtherCause)
    (cause : Cause) :
    (Except.error cause : Except Cause α).mapError rename = .error (rename cause) :=
  rfl

end MapError

namespace Grid

section Locate

variable
  {grid : Grid}
  {row column : UInt64}
  {address : Address}

/-- A place outside of the grid has no address. -/
theorem locate_of_outside
    (outside : ¬ grid.Contains row column) :
    grid.locate row column = .error (.outOfBounds row column) :=
  if_neg outside

/-- A place with an address lies in the grid. -/
theorem locate_eq_ok
    (located : grid.locate row column = .ok address) :
    grid.Contains row column ∧ Address.ofIndices? row column = some address := by
  unfold Grid.locate at located
  split at located
  · rename_i inside
    cases named : Address.ofIndices? row column with
    | none =>
        simp [named] at located
    | some found =>
        simp only [named, Except.ok.injEq] at located
        exact ⟨inside, congrArg some located⟩
  · contradiction

/-- In a grid with letters for all columns every place inside it has an address. -/
theorem exists_locate_eq_ok
    (named : grid.columns.toNat ≤ columnLimit)
    (inside : grid.Contains row column) :
    ∃ address, grid.locate row column = .ok address := by
  have hasLetter : column.toNat < columnLimit :=
    Nat.lt_of_lt_of_le (UInt64.lt_iff_toNat_lt.mp inside.2) named
  refine ⟨⟨row, ⟨column.toNat, hasLetter⟩⟩, ?_⟩
  simp only [Grid.locate, Address.ofIndices?, dif_pos hasLetter]
  exact if_pos inside

/-- An address that has been found is found again. -/
theorem locate_of_locate_eq_ok
    (located : grid.locate row column = .ok address) :
    grid.locate address.row address.columnNumber = .ok address := by
  obtain ⟨-, named⟩ := locate_eq_ok located
  obtain ⟨rfl, rfl⟩ := Address.of_ofIndices?_eq_some named
  exact located

theorem contains_of_locate_eq_ok
    (located : grid.locate row column = .ok address) :
    grid.Contains address.row address.columnNumber :=
  (locate_eq_ok (locate_of_locate_eq_ok located)).1

end Locate

end Grid

/-- A formula to be written to a place, or an expression to be written to a cell. -/
inductive Write where
  | formula (row column : UInt64) (text : String)
  | expression (address : Address) (expression : Expression)

/-- The change that a write makes. -/
def Write.change : Write → Sheet.Change
  | .formula row column text => Sheet.writeFormula row column text
  | .expression address entered => Sheet.writeCell address entered

namespace Sheet

open Grid

/-- The sheet after a write, and the reason for which the write was refused, if it was. -/
def perform
    (sheet : Sheet)
    (write : Write) :
    Sheet × Option SheetError :=
  sheet.after write.change

/-- Writes, some of which may have been refused, lead from the one sheet to the other. -/
inductive ReachedFrom (initial : Sheet) : Sheet → Prop where
  | start :
      ReachedFrom initial initial
  | perform {sheet : Sheet} (write : Write) :
      ReachedFrom initial sheet →
      ReachedFrom initial (sheet.perform write).1

/-! ## What a write is decided on -/

/-- The address with what its cell keeps of an expression; the text stands for it in an error. -/
def keptAt
    (sheet : Sheet)
    (address : Address)
    (expression : Expression)
    (text : String) :
    Except SheetError (Address × Expression) :=
  match sheet.kept? expression with
  | some kept => .ok (address, kept)
  | none => .error (.circularReference text)

/-- The cell that a write changes and what the cell keeps, or the reason for a refusal. -/
def decision
    (sheet : Sheet) :
    Write → Except SheetError (Address × Expression)
  | .formula row column text => do
    let address ← sheet.locate row column
    let expression ← (sheet.parse text).mapError (.unreadableFormula text)
    sheet.keptAt address expression text
  | .expression address expression => do
    let address ← sheet.locate address.row address.columnNumber
    sheet.keptAt address expression expression.render

/-- What a change ends with if it is decided on before anything is changed. -/
def carryOut
    (sheet : Sheet) :
    Except SheetError (Address × Expression) → EStateM.Result SheetError Sheet Unit
  | .ok (address, kept) => .ok () (sheet.keep address kept)
  | .error cause => .error cause sheet

/-- Writing a cell carries out the decision about the expression. -/
theorem run_writeCell
    (sheet : Sheet)
    (address : Address)
    (expression : Expression) :
    (writeCell address expression).run sheet =
      sheet.carryOut (sheet.decision (.expression address expression)) := by
  simp only [writeCell, EStateM.run_bind, EStateM.run_get, decision]
  cases sheet.locate address.row address.columnNumber with
  | error cause =>
      rfl
  | ok cell =>
      simp only [ofExcept, EStateM.run_pure, bind, Except.bind, keptAt]
      cases sheet.kept? expression with
      | none =>
          rfl
      | some kept =>
          rfl

/-- A handler goes on with what the failed change has left. -/
theorem run_tryCatch
    (change : Change)
    (handler : SheetError → Change)
    (sheet : Sheet) :
    (tryCatch change handler).run sheet =
      match change.run sheet with
      | .ok () changed => .ok () changed
      | .error cause left => (handler cause).run left := by
  change EStateM.tryCatch change handler sheet = _
  delta EStateM.tryCatch EStateM.run
  cases change sheet <;> rfl

/-- A formula is written as its expression is, except for the text in an error. -/
theorem run_writeFormula
    (sheet : Sheet)
    (row column : UInt64)
    (text : String) :
    (writeFormula row column text).run sheet =
      sheet.carryOut (sheet.decision (.formula row column text)) := by
  simp only [writeFormula, EStateM.run_bind, EStateM.run_get, decision]
  cases located : sheet.locate row column with
  | error cause =>
      rfl
  | ok address =>
      cases sheet.parse text with
      | error cause =>
          rfl
      | ok expression =>
          -- The place is checked again, and it is still inside the grid.
          have writes := sheet.run_writeCell address expression
          simp only [decision, locate_of_locate_eq_ok located, bind, Except.bind, keptAt] at writes
          simp only [ofExcept, EStateM.run_pure, mapError_ok, bind, Except.bind, keptAt,
            run_tryCatch, writes]
          cases sheet.kept? expression with
          | none =>
              rfl
          | some kept =>
              rfl

/-- A write is decided on before the sheet is touched. -/
theorem run_change
    (sheet : Sheet)
    (write : Write) :
    write.change.run sheet = sheet.carryOut (sheet.decision write) := by
  cases write with
  | formula row column text =>
      exact sheet.run_writeFormula row column text
  | expression address expression =>
      exact sheet.run_writeCell address expression

section Perform

variable {sheet : Sheet} {write : Write}

/-- A write that is refused leaves the sheet as it is. -/
theorem perform_of_decision_error
    {cause : SheetError}
    (refused : sheet.decision write = .error cause) :
    sheet.perform write = (sheet, some cause) := by
  simp only [perform, after, run_change, refused, carryOut]

/-- A write that is accepted lets one cell keep an expression. -/
theorem perform_of_decision_ok
    {address : Address}
    {kept : Expression}
    (accepted : sheet.decision write = .ok (address, kept)) :
    sheet.perform write = (sheet.keep address kept, none) := by
  simp only [perform, after, run_change, accepted, carryOut]

/-- A write leaves the sheet as it is, or one cell of it keeps another expression. -/
theorem perform_cases
    (sheet : Sheet)
    (write : Write) :
    (∃ cause, sheet.perform write = (sheet, some cause)) ∨
      ∃ address kept, sheet.decision write = .ok (address, kept) ∧
        sheet.perform write = (sheet.keep address kept, none) := by
  cases decides : sheet.decision write with
  | error cause =>
      exact Or.inl ⟨cause, perform_of_decision_error decides⟩
  | ok accepted =>
      exact Or.inr ⟨accepted.1, accepted.2, rfl, perform_of_decision_ok decides⟩

/-- A refused write leaves no trace, so that it can as well be made to a copy of the sheet. -/
theorem perform_eq_changed
    (sheet : Sheet)
    (write : Write) :
    sheet.perform write =
      match sheet.changed write.change with
      | .ok updated => (updated, none)
      | .error cause => (sheet, some cause) := by
  have copied : sheet.after write.change = sheet.perform write := rfl
  rcases sheet.perform_cases write with ⟨cause, performs⟩ | ⟨address, kept, _, performs⟩
  · simp only [changed, copied, performs]
  · simp only [changed, copied, performs]

end Perform

/-! ## Which writes are refused -/

/-- A cell keeps the value of an expression, or the expression where it cannot be computed. -/
def Keeps
    (sheet : Sheet)
    (expression kept : Expression) : Prop :=
  expression.evaluate sheet.snapshot = .ok kept ∨
    kept = expression ∧
      ((∃ text, expression.evaluate sheet.snapshot = .error (.notNumeric text)) ∨
        expression.evaluate sheet.snapshot = .error .divisionByZero ∨
        expression.evaluate sheet.snapshot = .error .overflow)

/-- Evaluating the expression in the sheet never ends. -/
def RunsInCircle
    (sheet : Sheet)
    (expression : Expression) : Prop :=
  Outcome.IsCircular (expression.evaluate sheet.snapshot)

/-- A cell keeps something of an expression unless evaluating the expression never ends. -/
theorem kept?_cases
    (sheet : Sheet)
    (expression : Expression) :
    (sheet.kept? expression = none ∧ sheet.RunsInCircle expression) ∨
      ∃ kept, sheet.kept? expression = some kept ∧ ¬ sheet.RunsInCircle expression ∧
        sheet.Keeps expression kept := by
  unfold kept? RunsInCircle Keeps
  cases evaluates : expression.evaluate sheet.snapshot with
  | ok value =>
      exact Or.inr ⟨value, rfl, Outcome.not_isCircular_ok value, Or.inl rfl⟩
  | error cause =>
      cases cause with
      | circularReference name =>
          exact Or.inl ⟨rfl, name, rfl⟩
      | notNumeric text =>
          exact Or.inr ⟨expression, rfl, by simp [Outcome.IsCircular], Or.inr ⟨rfl, by simp⟩⟩
      | divisionByZero | overflow =>
          exact Or.inr ⟨expression, rfl, by simp [Outcome.IsCircular], Or.inr ⟨rfl, by simp⟩⟩

/-- What the sheet decides on a formula that is to be written to a place. -/
inductive Decides (sheet : Sheet) (row column : UInt64) (text : String) :
    Except SheetError (Address × Expression) → Prop where
  | outside :
      ¬ sheet.Contains row column →
      Decides sheet row column text (.error (.outOfBounds row column))
  | unreadable {cause : FormulaError} :
      sheet.Contains row column →
      sheet.parse text = .error cause →
      Decides sheet row column text (.error (.unreadableFormula text cause))
  | circular {expression : Expression} :
      sheet.Contains row column →
      sheet.parse text = .ok expression →
      sheet.RunsInCircle expression →
      Decides sheet row column text (.error (.circularReference text))
  | kept {address : Address} {expression kept : Expression} :
      sheet.Contains row column →
      Address.ofIndices? row column = some address →
      sheet.parse text = .ok expression →
      ¬ sheet.RunsInCircle expression →
      sheet.Keeps expression kept →
      Decides sheet row column text (.ok (address, kept))

/-- The decision about a formula is the one that the rules give. -/
theorem decides_decision_formula
    {sheet : Sheet}
    (named : sheet.columns.toNat ≤ columnLimit)
    (row column : UInt64)
    (text : String) :
    sheet.Decides row column text (sheet.decision (.formula row column text)) := by
  by_cases inside : sheet.Contains row column
  · obtain ⟨address, located⟩ := exists_locate_eq_ok named inside
    simp only [decision, located, bind, Except.bind]
    cases parses : sheet.parse text with
    | error cause =>
        exact .unreadable inside parses
    | ok expression =>
        simp only [mapError_ok, keptAt]
        rcases sheet.kept?_cases expression with
          ⟨isNone, circular⟩ | ⟨kept, isSome, notCircular, keeps⟩
        · simp only [isNone]
          exact .circular inside parses circular
        · simp only [isSome]
          exact .kept inside (locate_eq_ok located).2 parses notCircular keeps
  · simp only [decision, locate_of_outside inside, bind, Except.bind]
    exact .outside inside

/-! ## Writing a formula -/

/-- A formula that is written to a place is refused for the first reason there is, or it is kept. -/
structure UpdatesExactly
    (sheet : Sheet)
    (row column : UInt64)
    (text : String) : Prop where
  outOfBounds_iff :
    (sheet.perform (.formula row column text)).2 = some (.outOfBounds row column) ↔
      ¬ sheet.Contains row column
  unreadableFormula_iff :
    ∀ cause,
      (sheet.perform (.formula row column text)).2 = some (.unreadableFormula text cause) ↔
        sheet.Contains row column ∧ sheet.parse text = .error cause
  circularReference_iff :
    (sheet.perform (.formula row column text)).2 = some (.circularReference text) ↔
      sheet.Contains row column ∧
        ∃ expression, sheet.parse text = .ok expression ∧ sheet.RunsInCircle expression
  accepted_iff :
    (sheet.perform (.formula row column text)).2 = none ↔
      sheet.Contains row column ∧
        ∃ expression, sheet.parse text = .ok expression ∧ ¬ sheet.RunsInCircle expression
  unchanged_of_refused :
    ∀ cause,
      (sheet.perform (.formula row column text)).2 = some cause →
        (sheet.perform (.formula row column text)).1 = sheet
  changed_of_accepted :
    (sheet.perform (.formula row column text)).2 = none →
      ∃ address expression kept,
        Address.ofIndices? row column = some address ∧
        sheet.parse text = .ok expression ∧
        sheet.Keeps expression kept ∧
        (sheet.perform (.formula row column text)).1.expressionAt? address = some kept ∧
        ∀ other, other ≠ address →
          (sheet.perform (.formula row column text)).1.expressionAt? other =
            sheet.expressionAt? other

/-- Every update follows the rules. -/
theorem updatesExactly
    {sheet : Sheet}
    (named : sheet.columns.toNat ≤ columnLimit)
    (row column : UInt64)
    (text : String) :
    sheet.UpdatesExactly row column text := by
  have decides := decides_decision_formula named row column text
  generalize changes : sheet.decision (.formula row column text) = decision at decides
  cases decides with
  | outside outside =>
      have performs := perform_of_decision_error changes
      constructor <;> simp [performs, outside]
  | unreadable inside parses =>
      have performs := perform_of_decision_error changes
      constructor <;> simp [performs, inside, parses]
  | circular inside parses circular =>
      have performs := perform_of_decision_error changes
      constructor <;> simp [performs, inside, parses, circular]
  | kept inside isAddress parses notCircular keeps =>
      have performs := perform_of_decision_ok changes
      have changed : (sheet.perform (.formula row column text)).2 = none := by
        rw [performs]
      refine ⟨?_, ?_, ?_, ?_, ?_, ?_⟩
      · simp [changed, inside]
      · simp [changed, parses]
      · simp [changed, parses, notCircular]
      · simp [changed, inside, parses, notCircular]
      · simp [changed]
      · intro _
        rw [performs]
        refine ⟨_, _, _, isAddress, parses, keeps, Grid.expressionAt?_put_self .., ?_⟩
        intro other different
        exact Grid.expressionAt?_put_of_ne _ _ different.symm

/-! ## What every run keeps -/

/-- A cell of the sheet has been written. -/
def IsWritten
    (sheet : Sheet)
    (cell : Address) : Prop :=
  (sheet.expressionAt? cell).isSome

/-- A sheet has been written to only inside its grid, and apart from its cells it is as built. -/
structure IsAsBuilt (initial sheet : Sheet) : Prop where
  rows_eq : sheet.rows = initial.rows
  columns_eq : sheet.columns = initial.columns
  filler_eq : sheet.filler = initial.filler
  builtIns_eq : sheet.builtIns = initial.builtIns
  parse_eq : sheet.parse = initial.parse
  isWritten_inside :
    ∀ cell, sheet.IsWritten cell → sheet.Contains cell.row cell.columnNumber

theorem isWritten_keep_iff
    {sheet : Sheet}
    {address cell : Address}
    {kept : Expression} :
    (sheet.keep address kept).IsWritten cell ↔ cell = address ∨ sheet.IsWritten cell :=
  Grid.isSome_expressionAt?_put_iff _

theorem keptAt_eq_ok_iff
    {sheet : Sheet}
    {address cell : Address}
    {expression kept : Expression}
    {text : String} :
    sheet.keptAt address expression text = .ok (cell, kept) ↔
      address = cell ∧ sheet.kept? expression = some kept := by
  unfold keptAt
  cases sheet.kept? expression <;> simp

/-- A formula changes a cell of the grid, which keeps something of what the formula means. -/
theorem decision_formula_eq_ok_iff
    {sheet : Sheet}
    {row column : UInt64}
    {text : String}
    {address : Address}
    {kept : Expression} :
    sheet.decision (.formula row column text) = .ok (address, kept) ↔
      sheet.locate row column = .ok address ∧
        ∃ expression, sheet.parse text = .ok expression ∧ sheet.kept? expression = some kept := by
  simp only [decision, bind, Except.bind]
  cases sheet.locate row column with
  | error cause =>
      simp
  | ok found =>
      cases sheet.parse text with
      | error cause =>
          simp [mapError_error]
      | ok expression =>
          simp [mapError_ok, keptAt_eq_ok_iff]

/-- An expression changes a cell of the grid, which keeps something of the expression. -/
theorem decision_expression_eq_ok_iff
    {sheet : Sheet}
    {address cell : Address}
    {expression kept : Expression} :
    sheet.decision (.expression cell expression) = .ok (address, kept) ↔
      sheet.locate cell.row cell.columnNumber = .ok address ∧
        sheet.kept? expression = some kept := by
  simp only [decision, bind, Except.bind]
  cases sheet.locate cell.row cell.columnNumber with
  | error cause =>
      simp
  | ok found =>
      simp [keptAt_eq_ok_iff]

/-- A formula changes a cell only after the cell has been located in the grid. -/
theorem locate_of_decision_formula_eq_ok
    {sheet : Sheet}
    {row column : UInt64}
    {text : String}
    {address : Address}
    {kept : Expression}
    (accepted : sheet.decision (.formula row column text) = .ok (address, kept)) :
    sheet.locate row column = .ok address :=
  (decision_formula_eq_ok_iff.mp accepted).1

/-- Only cells of the grid keep anything. -/
theorem contains_of_decision_eq_ok
    {sheet : Sheet}
    {write : Write}
    {address : Address}
    {kept : Expression}
    (accepted : sheet.decision write = .ok (address, kept)) :
    sheet.Contains address.row address.columnNumber := by
  cases write with
  | formula row column text =>
      exact contains_of_locate_eq_ok (locate_of_decision_formula_eq_ok accepted)
  | expression cell expression =>
      exact contains_of_locate_eq_ok (decision_expression_eq_ok_iff.mp accepted).1

theorem IsAsBuilt.perform
    {initial sheet : Sheet}
    (asBuilt : IsAsBuilt initial sheet)
    (write : Write) :
    IsAsBuilt initial (sheet.perform write).1 := by
  rcases sheet.perform_cases write with ⟨cause, performs⟩ | ⟨address, kept, accepted, performs⟩
  · rw [performs]
    exact asBuilt
  · rw [performs]
    refine ⟨asBuilt.rows_eq, asBuilt.columns_eq, asBuilt.filler_eq, asBuilt.builtIns_eq,
      asBuilt.parse_eq, ?_⟩
    intro cell isWritten
    rcases isWritten_keep_iff.mp isWritten with isTarget | before
    · subst isTarget
      have inside := contains_of_decision_eq_ok accepted
      exact inside
    · exact asBuilt.isWritten_inside cell before

/-- No run changes more of a sheet than its cells. -/
theorem IsAsBuilt.of_reachedFrom
    {initial sheet : Sheet}
    (asBuilt : IsAsBuilt initial initial)
    (reached : ReachedFrom initial sheet) :
    IsAsBuilt initial sheet := by
  induction reached with
  | start =>
      exact asBuilt
  | perform write _ inductionHypothesis =>
      exact inductionHypothesis.perform write

/-- A cell that has been written stays written. -/
theorem IsWritten.perform
    {sheet : Sheet}
    {cell : Address}
    (isWritten : sheet.IsWritten cell)
    (write : Write) :
    (sheet.perform write).1.IsWritten cell := by
  rcases sheet.perform_cases write with ⟨cause, performs⟩ | ⟨address, kept, _, performs⟩
  · rw [performs]
    exact isWritten
  · rw [performs]
    exact isWritten_keep_iff.mpr (Or.inr isWritten)

/-- Written cells stay written. -/
theorem IsWritten.of_reachedFrom
    {sheet later : Sheet}
    {cell : Address}
    (isWritten : sheet.IsWritten cell)
    (reached : ReachedFrom sheet later) :
    later.IsWritten cell := by
  induction reached with
  | start =>
      exact isWritten
  | perform write _ inductionHypothesis =>
      exact inductionHypothesis.perform write

/-- A new sheet has the dimensions and the filler that were asked for, and no written cells. -/
theorem eq_blank_of_build_eq_ok
    {parse : String → Except FormulaError Expression}
    {rows columns : UInt64}
    {filler : Expression}
    {builtIns : List (String × Expression)}
    {initial : Sheet}
    (built : buildWith parse rows columns filler builtIns = .ok initial) :
    columns.toNat ≤ columnLimit ∧
      initial =
        { Grid.blank rows columns filler with builtIns := initial.builtIns, parse := parse } := by
  unfold buildWith at built
  split at built
  · contradiction
  · rename_i named
    refine ⟨Nat.le_of_not_lt named, ?_⟩
    simp only [bind, Except.bind] at built
    split at built
    · contradiction
    · obtain rfl := Except.ok.inj built
      rfl

/-- No cell of a new sheet is written. -/
theorem expressionAt?_of_build_eq_ok
    {parse : String → Except FormulaError Expression}
    {rows columns : UInt64}
    {filler : Expression}
    {builtIns : List (String × Expression)}
    {initial : Sheet}
    (built : buildWith parse rows columns filler builtIns = .ok initial)
    (cell : Address) :
    initial.expressionAt? cell = none := by
  rw [(eq_blank_of_build_eq_ok built).2]
  simp [Grid.blank, Grid.expressionAt?]

theorem isAsBuilt_of_build_eq_ok
    {parse : String → Except FormulaError Expression}
    {rows columns : UInt64}
    {filler : Expression}
    {builtIns : List (String × Expression)}
    {initial : Sheet}
    (built : buildWith parse rows columns filler builtIns = .ok initial) :
    IsAsBuilt initial initial := by
  refine ⟨rfl, rfl, rfl, rfl, rfl, ?_⟩
  intro cell isWritten
  simp [IsWritten, expressionAt?_of_build_eq_ok built] at isWritten

/-- Formulas are read in the way that the sheet was built with. -/
theorem parse_eq_of_reachedFrom
    {parse : String → Except FormulaError Expression}
    {rows columns : UInt64}
    {filler : Expression}
    {builtIns : List (String × Expression)}
    {initial sheet : Sheet}
    (built : buildWith parse rows columns filler builtIns = .ok initial)
    (reached : ReachedFrom initial sheet) :
    sheet.parse = parse := by
  rw [((isAsBuilt_of_build_eq_ok built).of_reachedFrom reached).parse_eq,
    (eq_blank_of_build_eq_ok built).2]

/-- A place outside the grid shows the filler. -/
theorem valueAt_of_outside
    {initial sheet : Sheet}
    (asBuilt : IsAsBuilt initial sheet)
    {row column : UInt64}
    (outside : ¬ sheet.Contains row column) :
    sheet.view.valueAt row column = .plain sheet.filler.render := by
  have shown : sheet.shownAt row column = sheet.filler := by
    unfold Grid.shownAt
    cases named : Address.ofIndices? row column with
    | none =>
        rfl
    | some address =>
        obtain ⟨rfl, rfl⟩ := Address.of_ofIndices?_eq_some named
        have notWritten := mt (asBuilt.isWritten_inside address) outside
        have isNone : sheet.expressionAt? address = none := by
          simpa [IsWritten] using notWritten
        simp only [isNone, Option.getD_none]
  simp only [Grid.view, Grid.textAt, shown]

/--
A formula that is written to a place of a sheet is refused because of the place, of the formula or
of a circle, in this order, and then the sheet stays as it is, or else one cell keeps what the
formula comes to. Through all writes the dimensions, the filler and the built-ins are those of the
start, written cells lie inside the grid and stay written, and outside the grid only the filler is
shown.
-/
theorem update_is_exact
    {parse : String → Except FormulaError Expression}
    {rows columns : UInt64}
    {filler : Expression}
    {builtIns : List (String × Expression)}
    {initial sheet : Sheet}
    (built : buildWith parse rows columns filler builtIns = .ok initial)
    (reached : ReachedFrom initial sheet) :
    (∀ row column text, sheet.UpdatesExactly row column text) ∧
    (sheet.parse = parse ∧ sheet.rows = rows ∧ sheet.columns = columns ∧ sheet.filler = filler ∧
      sheet.builtIns = initial.builtIns) ∧
    (∀ cell, sheet.IsWritten cell →
      cell.row < rows ∧ cell.columnNumber < columns ∧ cell.columnNumber.toNat < 26) ∧
    (∀ later, ReachedFrom sheet later → ∀ cell, sheet.IsWritten cell → later.IsWritten cell) ∧
    (∀ row column, ¬ (row < rows ∧ column < columns) →
      sheet.view.valueAt row column = .plain filler.render) := by
  have asBuilt := (isAsBuilt_of_build_eq_ok built).of_reachedFrom reached
  obtain ⟨named, isBlank⟩ := eq_blank_of_build_eq_ok built
  have parseEq : sheet.parse = parse := by
    rw [asBuilt.parse_eq, isBlank]
  have rowsEq : sheet.rows = rows := by
    rw [asBuilt.rows_eq, isBlank]
    rfl
  have columnsEq : sheet.columns = columns := by
    rw [asBuilt.columns_eq, isBlank]
    rfl
  have fillerEq : sheet.filler = filler := by
    rw [asBuilt.filler_eq, isBlank]
    rfl
  rw [← columnsEq] at named
  refine ⟨updatesExactly named, ?_, ?_, ?_, ?_⟩
  · exact ⟨parseEq, rowsEq, columnsEq, fillerEq, asBuilt.builtIns_eq⟩
  · intro cell isWritten
    obtain ⟨rowInside, columnInside⟩ := asBuilt.isWritten_inside cell isWritten
    rw [rowsEq] at rowInside
    have hasLetter : cell.columnNumber.toNat < 26 :=
      Nat.lt_of_lt_of_le (UInt64.lt_iff_toNat_lt.mp columnInside) named
    rw [columnsEq] at columnInside
    exact ⟨rowInside, columnInside, hasLetter⟩
  · intro later laterReached cell isWritten
    exact isWritten.of_reachedFrom laterReached
  · intro row column outside
    rw [← fillerEq]
    apply valueAt_of_outside asBuilt
    rw [Grid.Contains, rowsEq, columnsEq]
    exact outside

/-- A small sheet with one built-in. -/
def lifeSheet : Sheet :=
  { Grid.blank 3 3 .empty with
    builtIns := (∅ : Context).insert "life" (.constant 42)
    parse := Formula.parse }

theorem buildWith_eq_ok_lifeSheet :
    buildWith Formula.parse 3 3 .empty [("life", .constant 42)] = .ok lifeSheet :=
  rfl

theorem lifeSheet_update :
    buildWith Formula.parse 3 3 .empty [("life", .constant 42)] = .ok lifeSheet ∧
      let sheet := (lifeSheet.perform (.expression ⟨0, ⟨0, by decide⟩⟩ (.constant 7))).1
      sheet.perform (.formula 3 0 "1") = (sheet, some (.outOfBounds 3 0)) ∧
        sheet.view.valueAt 0 3 = .plain "" := by
  have reached :
      ReachedFrom lifeSheet
        (lifeSheet.perform (.expression ⟨0, ⟨0, by decide⟩⟩ (.constant 7))).1 :=
    .perform _ .start
  obtain ⟨updates, -, -, -, outside⟩ := update_is_exact buildWith_eq_ok_lifeSheet reached
  have isOutside := (updates 3 0 "1").outOfBounds_iff.mpr (by decide)
  refine ⟨buildWith_eq_ok_lifeSheet, Prod.ext ?_ isOutside, outside 0 3 (by decide)⟩
  exact (updates 3 0 "1").unchanged_of_refused _ isOutside

end Sheet

end Spreadsheet
