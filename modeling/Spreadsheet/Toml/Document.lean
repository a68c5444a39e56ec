import Spreadsheet.Toml.DateTime
import Spreadsheet.Toml.Entries

namespace Spreadsheet.Toml

/-!
# Documents

A document is a sequence of lines, each of which is blank or a comment, begins a table, or gives a
key a value. A byte order mark may stand at its beginning.
-/

/-- Takes a truth value. -/
def boolean : Reader Value :=
  (do Reader.word "true".toList; return .boolean true) <|>
    (do Reader.word "false".toList; return .boolean false)

/-- Takes a value that holds no other values. -/
def scalar : Reader Value :=
  (.string <$> string) <|> (.dateTime <$> dateTime) <|> float <|> integer <|> boolean

/-- The path and the last part of a key. -/
def splitKey (parts : List String) : Option (List String × String) := do
  let name ← parts.getLast?
  return (parts.dropLast, name)

/-- Takes an array of fewer items than the given size, after its opening bracket. -/
def array
    (size : Nat)
    (value : Reader Value) :
    Reader Value := do
  let item : Reader Value := do
    space
    let item ← value
    space
    return item
  let items ← Reader.optional (Reader.separated item (Reader.symbol ',') size)
  if items.isSome then
    let _ ← Reader.optional (Reader.symbol ',')
  space
  Reader.symbol ']'
  return .array (items.getD [])

/-- Takes a key and its value, with blanks around each. -/
def assignment (value : Reader Value) : Reader (List String × Value) := do
  let parts ← key
  Reader.symbol '='
  blanks
  let value ← value
  blanks
  return (parts, value)

/-- Takes a table of fewer keys than the given size, after its opening brace. -/
def inlineTable
    (size : Nat)
    (value : Reader Value) :
    Reader Value := do
  let pairs ← Reader.optional (Reader.separated (assignment value) (Reader.symbol ',') size)
  blanks
  Reader.symbol '\x7d'
  let entries ← (pairs.getD []).foldlM
    (fun entries (parts, value) => do
      let (path, name) ← splitKey parts
      Entries.insertDotted path name value entries)
    ([] : Entries)
  return .table .braces entries

/-- Takes a value in which arrays and tables are nested no deeper than the given depth. -/
def value (size : Nat) : Nat → Reader Value
  | 0 => scalar
  | depth + 1 => fun text =>
    match text with
    | '[' :: rest => array size (value size depth) rest
    | '\x7b' :: rest => inlineTable size (value size depth) rest
    | _ => scalar text

/-- What is known of a document after some of its lines. -/
structure Progress where
  entries : Entries
  /-- The path of the table that keys are added to. -/
  path : List String

/-- Begins the table of a header line. -/
def Progress.begin
    (progress : Progress)
    (isElement : Bool)
    (parts : List String) :
    Option Progress := do
  let (path, name) ← splitKey parts
  let entries ←
    if isElement then Entries.beginElement path name progress.entries
    else Entries.beginTable path name progress.entries
  return ⟨entries, parts⟩

/-- Adds the value of a key to the table of the last header. -/
def Progress.assign
    (progress : Progress)
    (parts : List String)
    (value : Value) :
    Option Progress := do
  let (path, name) ← splitKey parts
  let entries ←
    Entries.changeAtHeader (Entries.insertDotted path name value) progress.path progress.entries
  return { progress with entries }

/--
Takes one line of a document that has the given size, and tells what the line does. The line does not
begin with blanks, and it may extend over several lines of text inside strings and arrays.
-/
def line (size : Nat) : Reader (Progress → Option Progress)
  | '#' :: rest => (do
      let _ ← Reader.span isPlain
      lineEnd
      return some : Reader (Progress → Option Progress)) rest
  | '[' :: '[' :: rest => (do
      let parts ← key
      Reader.word "]]".toList
      restOfLine
      return (·.begin true parts) : Reader (Progress → Option Progress)) rest
  | '[' :: rest => (do
      let parts ← key
      Reader.symbol ']'
      restOfLine
      return (·.begin false parts) : Reader (Progress → Option Progress)) rest
  | text => (do
      let isBreak ← Reader.optional lineBreak
      if isBreak.isSome then
        return some
      else
        let (parts, value) ← assignment (value size (depthLimit - 1))
        restOfLine
        return (·.assign parts value) : Reader (Progress → Option Progress)) text

/-- Reads on in a document of the given size, through at most the given number of lines. -/
def readLines (size : Nat) : Nat → Progress → List Char → Option Progress
  | limit, progress, text =>
    match text.dropWhile isBlank with
    | [] => some progress
    | first :: rest =>
      match limit with
      | 0 => none
      | remaining + 1 => do
        let (change, later) ← line size (first :: rest)
        readLines size remaining (← change progress) later

/-- The text without a byte order mark at its beginning. -/
def dropMark : List Char → List Char
  | '\ufeff' :: rest => rest
  | text => text

/-- The entries of the document that a text writes. -/
def read? (text : String) : Option Entries := do
  let characters := dropMark text.toList
  let size := characters.length
  let progress ← readLines size size ⟨[], []⟩ characters
  return progress.entries

end Spreadsheet.Toml
