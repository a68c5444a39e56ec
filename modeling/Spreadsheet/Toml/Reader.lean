namespace Spreadsheet.Toml

/-!
# Reading characters

A reader takes a value off the front of a text and leaves the rest, or fails.
-/

/-- Takes a value off the front of a text. -/
abbrev Reader := StateT (List Char) Option

namespace Reader

/-- Takes one character of a class. -/
def character (accepts : Char → Bool) : Reader Char
  | [] => none
  | first :: rest => if accepts first then some (first, rest) else none

/-- Takes the given character. -/
def symbol (expected : Char) : Reader Unit := do
  let _ ← character (· == expected)

/-- Takes the given characters. -/
def word : List Char → Reader Unit
  | [] => pure ()
  | expected :: later => do
    symbol expected
    word later

/-- Takes all characters of a class that stand at the front. -/
def span (accepts : Char → Bool) : Reader (List Char) :=
  fun text => some (text.span accepts)

/-- Takes a value if there is one at the front. -/
def optional
    {Item : Type}
    (item : Reader Item) :
    Reader (Option Item) :=
  fun text =>
    match item text with
    | some (value, rest) => some (some value, rest)
    | none => some (none, text)

/-- Takes further items, each after a separator, up to the given number. -/
def furtherItems
    {Item : Type}
    (item : Reader Item)
    (separator : Reader Unit) :
    Nat → List Item → Reader (List Item)
  | 0, reversed => pure reversed.reverse
  | limit + 1, reversed => fun text =>
    match (separator *> item) text with
    | some (value, rest) => furtherItems item separator limit (value :: reversed) rest
    | none => some (reversed.reverse, text)

/-- Takes one item or more with separators between them, and at most the given number further items. -/
def separated
    {Item : Type}
    (item : Reader Item)
    (separator : Reader Unit)
    (limit : Nat) :
    Reader (List Item) := do
  let first ← item
  furtherItems item separator limit [first]

end Reader

/-- Spaces and tabs separate the parts of a line. -/
def isBlank (character : Char) : Bool :=
  character == ' ' || character == '\t'

/-- Text and comments hold tabs and all characters other than the control characters of ASCII. -/
def isPlain (character : Char) : Bool :=
  character == '\t' || (' ' ≤ character && character != '\x7f')

/-- Takes spaces and tabs. -/
def blanks : Reader Unit := do
  let _ ← Reader.span isBlank

/-- Takes the end of a line: a line feed, with or without a carriage return before it. -/
def lineBreak : Reader Unit
  | '\n' :: rest => some ((), rest)
  | '\r' :: '\n' :: rest => some ((), rest)
  | _ => none

/-- Takes the end of a line or stops at the end of the document. -/
def lineEnd : Reader Unit
  | [] => some ((), [])
  | text => lineBreak text

/-- Takes a comment up to the end of its line. -/
def comment : Reader Unit := do
  Reader.symbol '#'
  let _ ← Reader.span isPlain

/-- Takes what may follow a statement on its line: blanks, a comment and the end of the line. -/
def restOfLine : Reader Unit := do
  blanks
  let _ ← Reader.optional comment
  lineEnd

/-- Drops blanks, line breaks and whole comments; the flag tells that a comment has begun. -/
def dropSpace : Bool → List Char → Option (List Char)
  | false, [] => some []
  | true, [] => none
  | _, '\r' :: '\n' :: rest => dropSpace false ('\n' :: rest)
  | _, '\n' :: rest => dropSpace false rest
  | true, first :: rest => if isPlain first then dropSpace true rest else none
  | false, '#' :: rest => dropSpace true rest
  | false, first :: rest => if isBlank first then dropSpace false rest else some (first :: rest)

/-- Takes blanks, line breaks and comments, as they may stand between the items of an array. -/
def space : Reader Unit :=
  fun text => (dropSpace false text).map fun rest => ((), rest)

end Spreadsheet.Toml
