import Spreadsheet.Address
import Spreadsheet.View

namespace Spreadsheet.View

/-!
# Tables in markdown

A view is written as a markdown table. The first line names the columns by their letters, the second
one is a rule, and each further line has a row number and the texts of the row. In a text every pipe
gets a backslash, line feeds become spaces and carriage returns are left out, so that each row is one
line with one pipe at each end of a cell.
-/

/-- The text with each occurrence of a character replaced. -/
def replaced
    (character : Char)
    (replacement : List Char)
    (text : List Char) :
    List Char :=
  text.flatMap fun found => if found = character then replacement else [found]

/-- How a text is written in a table: one replacement is made after the other. -/
def tableText (text : List Char) : List Char :=
  replaced '\r' [] (replaced '\n' [' '] (replaced '|' ['\\', '|'] text))

/-- A cell with one space on each side, up to the pipe that ends it. -/
def tableCell (text : List Char) : List Char :=
  [' '] ++ text ++ [' ', '|']

/-- The letter above a column; a question mark stands above columns without one. -/
def columnHeading (column : Nat) : Char :=
  (columnLetter? (UInt64.ofNat column)).getD '?'

/-- The line that names the columns. -/
def headingLine (view : View) : List Char :=
  ['|', ' ', ' ', ' ', '|'] ++
    (List.range view.columns.toNat).flatMap fun column => tableCell [columnHeading column]

/-- The rule below the names of the columns. -/
def ruleLine (view : View) : List Char :=
  ['|', '-', '-', '-', '|'] ++
    (List.range view.columns.toNat).flatMap fun _ => ['-', '-', '-', '|']

/-- The line of a row: its number and its texts. -/
def rowLine
    (view : View)
    (row : Nat) :
    List Char :=
  ['|'] ++ tableCell (Decimal.writeNatural row) ++
    (List.range view.columns.toNat).flatMap fun column =>
      tableCell (tableText (view.valueAt (UInt64.ofNat row) (UInt64.ofNat column)).text.toList)

/-- The lines of the table. -/
def tableLines (view : View) : List (List Char) :=
  view.headingLine :: view.ruleLine :: (List.range view.rows.toNat).map view.rowLine

/-- The table, with a line feed at the end of each line. -/
def table (view : View) : String :=
  String.ofList (view.tableLines.flatMap (· ++ ['\n']))

/-- A document that holds the table under a title. -/
def document (view : View) : String :=
  "# Sheet\n\n" ++ view.table

end Spreadsheet.View
