import Spreadsheet.Main
import Spreadsheet.Proofs.Evaluation.ReferenceGraph
import Spreadsheet.Proofs.Formula.NormalForm
import Spreadsheet.Sheet.FormulaSheet
import Spreadsheet.Proofs.Sheet.Dependents
import Spreadsheet.Proofs.CommandLine.Dependents
import Spreadsheet.Proofs.Evaluation.Agreement
import Spreadsheet.Proofs.Sheet.Snapshot
import Spreadsheet.Proofs.Sheet.Writes
import Spreadsheet.Proofs.Sheet.BuiltIns
import Spreadsheet.Proofs.Sheet.Independence
import Spreadsheet.Proofs.Evaluation.NormalForm
import Spreadsheet.Proofs.Sheet.FormulaSheet
import Spreadsheet.Proofs.Sheet.Scope
import Spreadsheet.Proofs.Sheet.Spelling
import Spreadsheet.Proofs.Sheet.ReadBack
import Spreadsheet.Proofs.Run
import Spreadsheet.Proofs.Sheet.Refinement
import Spreadsheet.Proofs.CommandLine.Arguments
import Spreadsheet.Proofs.CommandLine.Edits
import Spreadsheet.Proofs.View.Table
import Spreadsheet.Proofs.Evaluation.Extension
import Spreadsheet.Proofs.Evaluation.CircularName
import Spreadsheet.Proofs.Evaluation.Inlining
import Spreadsheet.Proofs.Sheet.Outcomes
import Spreadsheet.Proofs.Operator.Fold
import Spreadsheet.Proofs.Operator.Division
import Spreadsheet.Proofs.Formula.Reparsing
import Spreadsheet.Proofs.Evaluation.UsualArithmetic
import Spreadsheet.Proofs.Formula.Restriction
import Spreadsheet.Proofs.Address
import Spreadsheet.Proofs.Edit.Script
import Spreadsheet.Formula.Offsets
import Spreadsheet.Proofs.Formula.Cutting
import Spreadsheet.Config.Loading
import Spreadsheet.Proofs.Config.Loading
import Spreadsheet.Proofs.Sheet.Building
