import Spreadsheet.Address
import Spreadsheet.Text.Blank
import Spreadsheet.Text.Quoted

namespace Spreadsheet

/-!
# Edits

An edit says which formula to write to which cell. It is written as the address, a colon and the
formula, with any blanks around the address and around the formula. The formula may be empty and may
contain further colons.
-/

/-- A formula to be written to a cell. -/
structure Edit where
  address : Address
  formula : String
  deriving Repr, DecidableEq

/-- The reasons for which a text is no edit. -/
inductive EditError where
  | noColon (text : String)
  | invalidAddress (text : String)
  deriving Repr, DecidableEq

/-- The reason in words. -/
def EditError.message : EditError → String
  | .noColon text => "Expected CELL: FORMULA, got " ++ Text.quoted text
  | .invalidAddress text => "Invalid cell reference: " ++ text

/-- The address that a text writes, which must be one. -/
def Address.parse (text : String) : Except EditError Address :=
  match Address.ofText? text with
  | some address => .ok address
  | none => .error (.invalidAddress text)

namespace Edit

/-- The edit that some characters write. -/
def parseCharacters (text : List Char) : Except EditError Edit :=
  match text.dropWhile (· != ':') with
  | [] => .error (.noColon (String.ofList text))
  | _ :: formula => do
    let address ← Address.parse (String.ofList (Text.trim (text.takeWhile (· != ':'))))
    return ⟨address, String.ofList (Text.trim formula)⟩

/-- The edit that a text writes. -/
def parse (text : String) : Except EditError Edit :=
  parseCharacters text.toList

end Edit

end Spreadsheet
