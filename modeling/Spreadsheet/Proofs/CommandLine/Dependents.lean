import Spreadsheet.Proofs.Address
import Spreadsheet.Proofs.CommandLine.Edits
import Spreadsheet.Proofs.Formula.Grouping
import Spreadsheet.Proofs.Sheet.Dependents

namespace Spreadsheet.CommandLine

/-!
# Dependents on a command line

A run ends with a sheet if its configuration builds and its scripts can be read; otherwise it is
given up. A run that is asked for the dependents of a cell prints those of the sheet that it ends
with, one on each line, and a run that is given up prints nothing.
-/

section Asked

variable
  {arguments : List String}
  {surroundings : Surroundings}
  {options : Options}
  {sheet : Sheet}
  {address : Address}

end Asked

/-! ## The search and what is printed -/

end Spreadsheet.CommandLine
