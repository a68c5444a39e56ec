import Spreadsheet.Toml.Reader

namespace Spreadsheet.Toml

/-!
# Strings

A string stands between two quotes on one line, or between two triple quotes on several lines. Double
quotes allow escapes, single quotes take every character as it is. In a string of several lines, a
line break right after the opening quotes does not count, a backslash at the end of a line joins it
to the next text, and one or two quotes may stand right before the closing ones.
-/

/-- The character that a letter after a backslash stands for. -/
def escapedCharacter? : Char → Option Char
  | 'b' => some '\x08'
  | 't' => some '\t'
  | 'n' => some '\n'
  | 'f' => some '\x0c'
  | 'r' => some '\r'
  | '"' => some '"'
  | '\\' => some '\\'
  | _ => none

/-- The number of hexadecimal digits after a backslash and a letter that announces a code point. -/
def codeLength? : Char → Option Nat
  | 'u' => some 4
  | 'U' => some 8
  | _ => none

/-- The value of a hexadecimal digit. -/
def hexDigit? (character : Char) : Option Nat :=
  if character.isDigit then some (character.toNat - '0'.toNat)
  else if 'a' ≤ character ∧ character ≤ 'f' then some (character.toNat - 'a'.toNat + 10)
  else if 'A' ≤ character ∧ character ≤ 'F' then some (character.toNat - 'A'.toNat + 10)
  else none

/-- The character of a code point, which must not be a surrogate. -/
def characterOfCode? (code : Nat) : Option Char :=
  if code < 0xD800 ∨ (0xDFFF < code ∧ code < 0x110000) then
    some (Char.ofNat code)
  else
    none

/-- What the characters before have left open inside a string with escapes. -/
inductive Pending where
  | nothing
  | escape
  /-- Hexadecimal digits that are still to come, and the value of those before. -/
  | code (missing value : Nat)
  /-- A backslash and blanks, after which the line must end. -/
  | lineEnd
  /-- A line that was joined to the one before, up to its first visible character. -/
  | joined

/-- What follows the first quote of closing triple quotes, and how many quotes stand before them. -/
def closing? (quote : Char) : List Char → Option (Nat × List Char)
  | second :: third :: rest =>
    if second == quote && third == quote then
      match rest with
      | fourth :: fifth :: later =>
        if fourth == quote && fifth == quote then some (2, later)
        else if fourth == quote then some (1, fifth :: later)
        else some (0, rest)
      | [fourth] => if fourth == quote then some (1, []) else some (0, rest)
      | [] => some (0, [])
    else none
  | _ => none

/-- The string of characters that were collected in reverse. -/
def collected (reversed : List Char) : String :=
  String.ofList reversed.reverse

/-- What one character does to a string with escapes that is being read. -/
inductive Step where
  /-- The string goes on with some characters more, given in reverse. -/
  | onward (pending : Pending) (added : List Char)
  /-- The string ends after some quotes more, and the text goes on. -/
  | close (quotes : Nat) (rest : List Char)
  | failure

/-- The character begins a line break. -/
def beginsLineBreak
    (first : Char)
    (rest : List Char) :
    Bool :=
  first == '\n' || (first == '\r' && rest.head? == some '\n')

/-- What a character does where nothing is left open. -/
def plainStep
    (severalLines : Bool)
    (first : Char)
    (rest : List Char) :
    Step :=
  if first == '"' then
    if severalLines then
      match closing? '"' rest with
      | some (quotes, later) => .close quotes later
      | none => .onward .nothing ['"']
    else
      .close 0 rest
  else if first == '\\' then
    .onward .escape []
  else if severalLines && beginsLineBreak first rest then
    .onward .nothing (if first == '\n' then ['\n'] else [])
  else if isPlain first then
    .onward .nothing [first]
  else
    .failure

/-- What a character does after a backslash. -/
def escapeStep
    (severalLines : Bool)
    (first : Char)
    (rest : List Char) :
    Step :=
  match escapedCharacter? first, codeLength? first with
  | some character, _ => .onward .nothing [character]
  | none, some length => .onward (.code length 0) []
  | none, none =>
    if severalLines && beginsLineBreak first rest then
      .onward (if first == '\n' then .joined else .lineEnd) []
    else if severalLines && isBlank first then
      .onward .lineEnd []
    else
      .failure

/-- What a character does to the code point of an escape. -/
def codeStep
    (missing value : Nat)
    (first : Char) :
    Step :=
  match hexDigit? first with
  | none => .failure
  | some digit =>
    if 1 < missing then
      .onward (.code (missing - 1) (value * 16 + digit)) []
    else
      match characterOfCode? (value * 16 + digit) with
      | some character => .onward .nothing [character]
      | none => .failure

/-- What a character does to a string with escapes. -/
def step
    (severalLines : Bool)
    (pending : Pending)
    (first : Char)
    (rest : List Char) :
    Step :=
  match pending with
  | .nothing => plainStep severalLines first rest
  | .escape => escapeStep severalLines first rest
  | .code missing value => codeStep missing value first
  | .lineEnd =>
    if first == '\n' then .onward .joined []
    else if isBlank first || beginsLineBreak first rest then .onward .lineEnd []
    else .failure
  | .joined =>
    if isBlank first || beginsLineBreak first rest then .onward .joined []
    else plainStep severalLines first rest

/-- Reads on in a string with escapes, after its opening quotes. -/
def escapedText
    (severalLines : Bool) :
    Pending → List Char → List Char → Option (String × List Char)
  | _, _, [] => none
  | pending, reversed, first :: rest =>
    match step severalLines pending first rest with
    | .onward next added => escapedText severalLines next (added ++ reversed) rest
    | .close quotes later => some (collected (List.replicate quotes '"' ++ reversed), later)
    | .failure => none

/-- Reads on in a string without escapes, after its opening quotes. -/
def literalText
    (severalLines : Bool) :
    List Char → List Char → Option (String × List Char)
  | _, [] => none
  | reversed, first :: rest =>
    if first == '\'' then
      if severalLines then
        match closing? '\'' rest with
        | some (quotes, later) => some (collected (List.replicate quotes '\'' ++ reversed), later)
        | none => literalText severalLines ('\'' :: reversed) rest
      else
        some (collected reversed, rest)
    else if severalLines && beginsLineBreak first rest then
      literalText severalLines (if first == '\n' then '\n' :: reversed else reversed) rest
    else if isPlain first then
      literalText severalLines (first :: reversed) rest
    else
      none

/-- The text without a line break at its beginning. -/
def dropLineBreak : List Char → List Char
  | '\n' :: rest => rest
  | '\r' :: '\n' :: rest => rest
  | text => text

/-- Takes a string on one line. -/
def lineString : Reader String
  | '"' :: rest => escapedText false .nothing [] rest
  | '\'' :: rest => literalText false [] rest
  | _ => none

/-- Takes a string. -/
def string : Reader String
  | '"' :: '"' :: '"' :: rest => escapedText true .nothing [] (dropLineBreak rest)
  | '\'' :: '\'' :: '\'' :: rest => literalText true [] (dropLineBreak rest)
  | text => lineString text

/-- The characters of keys that are written without quotes. -/
def isKeyCharacter (character : Char) : Bool :=
  character.isAlphanum || character == '-' || character == '_'

/-- Takes a key that is written without quotes. -/
def bareKey : Reader String := do
  let first ← Reader.character isKeyCharacter
  let later ← Reader.span isKeyCharacter
  return String.ofList (first :: later)

/-- Takes one part of a key, with the blanks around it. -/
def keyPart : Reader String := do
  blanks
  let part ← lineString <|> bareKey
  blanks
  return part

/-- A key has fewer parts than this, and arrays and tables are nested less deeply. -/
def depthLimit : Nat := 80

/-- Takes the parts of a key, which are separated by dots. -/
def key : Reader (List String) := do
  let parts ← Reader.separated keyPart (Reader.symbol '.') depthLimit
  guard (parts.length < depthLimit)
  return parts

end Spreadsheet.Toml
