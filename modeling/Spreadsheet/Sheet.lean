import Spreadsheet.Evaluation
import Spreadsheet.Sheet.Grid

namespace Spreadsheet

/-!
# Sheets

A sheet is a grid with built-in names. A formula that is written to a cell is evaluated at once, in
the context of the built-ins and of the cells written so far, and the cell keeps the result. A
formula that cannot be computed is kept as it is, and one that runs in a circle is refused.
-/

/-- A grid whose formulas are evaluated as they are written. -/
structure Sheet extends Grid where
  builtIns : Context
  /-- The way in which formulas are read. -/
  parse : String → Except FormulaError Expression

namespace Sheet

/-- Adds a built-in, whose name must be usable in formulas and must not be an address. -/
def addBuiltIn
    (builtIns : Context)
    (binding : String × Expression) :
    Except SheetError Context :=
  let (name, expression) := binding
  if !Formula.isName name.toList then
    .error (.invalidBuiltIn name)
  else if (Address.ofText? name).isSome then
    .error (.builtInIsAddress name)
  else
    .ok (builtIns.insert name expression)

/--
A sheet with no cell written that reads formulas in the given way; of two built-ins of one name the
later one holds.
-/
def buildWith
    (parse : String → Except FormulaError Expression)
    (rows columns : UInt64)
    (filler : Expression)
    (builtIns : List (String × Expression)) :
    Except SheetError Sheet := do
  if columnLimit < columns.toNat then
    .error (.tooManyColumns columns)
  else
    let context ← builtIns.foldlM addBuiltIn ∅
    return { Grid.blank rows columns filler with builtIns := context, parse := parse }

/-- A sheet with no cell written. -/
def build
    (rows columns : UInt64)
    (filler : Expression)
    (builtIns : List (String × Expression)) :
    Except SheetError Sheet :=
  buildWith Formula.parse rows columns filler builtIns

/-- The context of the next formula: each built-in, and each written cell under its address. -/
def snapshot (sheet : Sheet) : Context :=
  sheet.cells.foldl
    (fun context address expression => context.insert address.text expression)
    sheet.builtIns

/-- What a cell keeps of an expression, or nothing if evaluating the expression never ends. -/
def kept?
    (sheet : Sheet)
    (expression : Expression) :
    Option Expression :=
  match expression.evaluate sheet.snapshot with
  | .ok value => some value
  | .error (.circularReference _) => none
  | .error _ => some expression

/-- The sheet with an expression kept in one of its cells. -/
def keep
    (sheet : Sheet)
    (address : Address)
    (expression : Expression) :
    Sheet :=
  { sheet with toGrid := sheet.put address expression }

/-- A change that is made to a sheet step by step. Steps before one that fails are not undone. -/
abbrev Change : Type := EStateM SheetError Sheet Unit

/-- Writes the value of an expression to a cell. -/
def writeCell
    (address : Address)
    (expression : Expression) :
    Change := do
  let sheet ← get
  let address ← ofExcept (sheet.locate address.row address.columnNumber)
  match sheet.kept? expression with
  | some kept => set (sheet.keep address kept)
  | none => throw (.circularReference expression.render)

/-- Writes the value of a formula to the cell at a row and a column. -/
def writeFormula
    (row column : UInt64)
    (formula : String) :
    Change := do
  let sheet ← get
  let address ← ofExcept (sheet.locate row column)
  let parsed := (sheet.parse formula).mapError (.unreadableFormula formula)
  let expression ← ofExcept parsed
  try
    writeCell address expression
  catch
    | .circularReference _ => throw (.circularReference formula)
    | cause => throw cause

/-- The sheet after a change, and the reason for which the change failed, if it did. -/
def after
    (sheet : Sheet)
    (change : Change) :
    Sheet × Option SheetError :=
  match change.run sheet with
  | .ok () changed => (changed, none)
  | .error cause left => (left, some cause)

/-- The sheet that a change makes, unless the change fails. -/
def changed
    (sheet : Sheet)
    (change : Change) :
    Except SheetError Sheet :=
  match sheet.after change with
  | (changed, none) => .ok changed
  | (_, some cause) => .error cause

/-- The sheet with the value of an expression in a cell. -/
def write
    (sheet : Sheet)
    (address : Address)
    (expression : Expression) :
    Except SheetError Sheet :=
  sheet.changed (writeCell address expression)

/-- The sheet with the value of a formula in the cell at a row and a column. -/
def update
    (sheet : Sheet)
    (row column : UInt64)
    (formula : String) :
    Except SheetError Sheet :=
  sheet.changed (writeFormula row column formula)

end Sheet

end Spreadsheet
