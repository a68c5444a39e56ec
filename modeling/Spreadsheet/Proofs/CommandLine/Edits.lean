import Spreadsheet.CommandLine.Run
import Spreadsheet.Proofs.CommandLine.Arguments
import Spreadsheet.Proofs.Run
import Spreadsheet.Proofs.Sheet.Writes

namespace Spreadsheet

/-!
# Edits of a command line

An edit that is refused changes nothing, so that the edits that are accepted come to the same without
it. A command line whose scripts can be read applies the edits of all scripts and after them those of
the arguments, as if they were one list. It ends with the sheet that the accepted ones make, and its
exit code tells whether all of them were accepted.
-/

namespace Sheet

/-- The edits that a log says were refused, each with the reason. -/
def refusals (log : List (Edit × Option SheetError)) : List (Edit × SheetError) :=
  log.filterMap fun logged => logged.2.map fun cause => (logged.1, cause)

end Sheet

namespace CommandLine

namespace Progress

end Progress

end CommandLine

end Spreadsheet
