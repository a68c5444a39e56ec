import Spreadsheet.Edit
import Spreadsheet.Files

namespace Spreadsheet

/-!
# Edit scripts

A script holds one edit on each line. Blank lines and lines that begin with a number sign are
skipped, and so are the blanks at the ends of a line. Lines are numbered from one, skipped ones
included, and the first line that is neither valid UTF-8 nor readable decides the error.
-/

/-- The reasons for which a script cannot be read. -/
inductive ScriptError where
  /-- A line is not valid UTF-8. -/
  | invalidEncoding
  /-- The file has been opened but cannot be read. -/
  | unreadable (cause : FileError)
  | invalidLine (number : Nat) (cause : EditError)
  deriving Repr, DecidableEq

/-- The reason in words. -/
def ScriptError.message : ScriptError → String
  | .invalidEncoding => "IO error: " ++ invalidEncodingReason
  | .unreadable cause => "IO error: " ++ cause.message
  | .invalidLine number cause =>
    "Parse error at line " ++ number.repr ++ ": " ++ cause.message

/-- The reason in words, followed by what is behind it where that is not a matter of the script. -/
def ScriptError.fullMessage (error : ScriptError) : String :=
  match error with
  | .invalidEncoding => error.message ++ ": " ++ invalidEncodingReason
  | .unreadable cause => error.message ++ ": " ++ cause.message
  | .invalidLine _ _ => error.message

namespace Script

/-- The byte that ends a line. -/
def lineFeed : UInt8 := 10

/-- Puts a byte in front of the lines that follow it. -/
def consByte
    (byte : UInt8)
    (lines : List (List UInt8)) :
    List (List UInt8) :=
  if byte == lineFeed then
    [] :: lines
  else
    match lines with
    | [] => [[byte]]
    | line :: later => (byte :: line) :: later

/-- The lines between the line feeds. -/
def lines (bytes : List UInt8) : List (List UInt8) :=
  bytes.foldr consByte [[]]

/-- The characters of a line, which must be valid UTF-8. -/
def decodeLine (line : List UInt8) : Except ScriptError (List Char) :=
  match String.fromUTF8? line.toByteArray with
  | some text => .ok text.toList
  | none => .error .invalidEncoding

/-- A trimmed line that holds no edit. -/
def isSkipped (trimmed : List Char) : Bool :=
  match trimmed with
  | [] => true
  | first :: _ => first == '#'

/-- The edit on a line, if the line is not skipped. -/
def readLine
    (number : Nat)
    (line : List UInt8) :
    Except ScriptError (Option Edit) := do
  let trimmed := Text.trim (← decodeLine line)
  if isSkipped trimmed then
    return none
  else
    let edit ← (Edit.parseCharacters trimmed).mapError (.invalidLine number)
    return some edit

/-- The edits on the lines from the given line number on. -/
def readLines : Nat → List (List UInt8) → Except ScriptError (List Edit)
  | _, [] => .ok []
  | number, line :: later => do
    let edit? ← readLine number line
    let laterEdits ← readLines (number + 1) later
    return edit?.toList ++ laterEdits

/-- The edits of a script. -/
def read (script : ByteArray) : Except ScriptError (List Edit) :=
  readLines 1 (lines script.toList)

end Script

end Spreadsheet
