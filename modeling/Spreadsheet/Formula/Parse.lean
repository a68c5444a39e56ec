import Spreadsheet.Bounded
import Spreadsheet.Expression.Build
import Spreadsheet.Formula.Pieces
import Spreadsheet.Text.Alphanumeric

namespace Spreadsheet

/-!
# Reading formulas

A blank formula is empty. Any other formula is cut at the operator that binds most loosely, and the
pieces are read in the same way; a formula that is not cut, or has an empty piece, must be one
token: a 64-bit integer, or a name of letters and numbers. Digits too large for an integer are a
name.
-/

/-- The reasons for which a formula cannot be read. -/
inductive FormulaError where
  | invalidToken (text : String)
  | invalidOperation (cause : OperationError)
  deriving Repr, DecidableEq

/-- The reason in words. -/
def FormulaError.message : FormulaError → String
  | .invalidToken text => "Not a valid token: " ++ text
  | .invalidOperation cause => "Cannot parse: " ++ cause.message

namespace Formula

/-- The 64-bit integer that the characters write. -/
def literal? (text : List Char) : Option Int64 :=
  (Decimal.integer? text).bind Bounded.int64?

/-- The characters can be a name: there is at least one, and all are letters or numbers. -/
def isName (text : List Char) : Bool :=
  !text.isEmpty && text.all Text.isAlphanumeric

/-- The expression that a single token stands for. -/
def token (text : List Char) : Except FormulaError Expression :=
  match literal? text with
  | some value => .ok (.constant value)
  | none =>
    if isName text then
      .ok (.reference (String.ofList text))
    else
      .error (.invalidToken (String.ofList text))

/-- Reads a formula, with operations made by the given builder. -/
def parseCharacters
    (build : OperationBuilder)
    (text : List Char) :
    Except FormulaError Expression :=
  let trimmed := Text.trim text
  if trimmed.isEmpty then
    .ok .empty
  else
    match _ : split? trimmed with
    | none => token trimmed
    | some (operator, pieces) =>
      if pieces.any List.isEmpty then
        token trimmed
      else do
        let operands ← pieces.attach.mapM fun ⟨piece, _⟩ => parseCharacters build piece
        (build operator.name operands).mapError .invalidOperation
termination_by text.length
decreasing_by
  rename_i cut _ member
  exact Nat.lt_of_lt_of_le (length_lt_of_mem_split cut member) (Text.length_trim_le text)

/-- Reads the text of a formula, with operations made by the given builder. -/
def parseWith
    (build : OperationBuilder)
    (text : String) :
    Except FormulaError Expression :=
  parseCharacters build text.toList

/-- Reads the text of a formula. -/
def parse (text : String) : Except FormulaError Expression :=
  parseWith Expression.build text

end Formula

end Spreadsheet
