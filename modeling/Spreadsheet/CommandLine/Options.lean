import Spreadsheet.Edit

namespace Spreadsheet.CommandLine

/-!
# Command line arguments

Arguments are read from left to right, and the first one that asks for help or cannot be understood
decides. Edits and scripts add up; of the settings file, the cell and the output file the last one
counts.
-/

/-- What the arguments ask for. -/
structure Options where
  settingsFile : Option String
  edits : List Edit
  scripts : List String
  dependentsOf : Option Address
  outputFile : Option String

/-- Nothing is asked for. -/
def Options.empty : Options :=
  ⟨none, [], [], none, none⟩

/-- What an option with a value is about. -/
inductive Flag where
  | settings
  | edit
  | script
  | dependents
  | output
  deriving Repr, DecidableEq

/-- The option with a value that an argument names. -/
def Flag.ofArgument? : String → Option Flag
  | "--config" => some .settings
  | "-e" | "--edit" => some .edit
  | "-i" | "--input" => some .script
  | "-d" | "--dependents" => some .dependents
  | "-o" | "--output" => some .output
  | _ => none

/-- The argument asks for help. -/
def isHelp (argument : String) : Bool :=
  argument == "-h" || argument == "--help"

/-- What an option wants as its value, in words. -/
def Flag.wanted : Flag → String
  | .settings | .script | .output => "a file path"
  | .edit => "an edit"
  | .dependents => "a cell"

/-- The reasons for which arguments cannot be understood. -/
inductive ArgumentError where
  | unknownOption (argument : String)
  | missingValue (argument : String) (flag : Flag)
  | invalidValue (cause : EditError)
  deriving Repr, DecidableEq

/-- The reason in words. -/
def ArgumentError.message : ArgumentError → String
  | .unknownOption argument => "Unknown option: " ++ argument
  | .missingValue argument flag => argument ++ " requires " ++ flag.wanted
  | .invalidValue cause => cause.message

/-- What a command line is for. -/
inductive Request where
  | help
  | run (options : Options)

/-- The options with the value of one more option. -/
def Options.add
    (options : Options)
    (value : String) :
    Flag → Except ArgumentError Options
  | .settings => .ok { options with settingsFile := some value }
  | .edit => do
    let edit ← (Edit.parse value).mapError .invalidValue
    return { options with edits := options.edits ++ [edit] }
  | .script => .ok { options with scripts := options.scripts ++ [value] }
  | .dependents => do
    let address ← (Address.parse value).mapError .invalidValue
    return { options with dependentsOf := some address }
  | .output => .ok { options with outputFile := some value }

/-- What the arguments ask for, given what those before them ask for. -/
def Options.parseFrom
    (options : Options) :
    List String → Except ArgumentError Request
  | [] => .ok (.run options)
  | argument :: later =>
    if isHelp argument then
      .ok .help
    else
      match Flag.ofArgument? argument, later with
      | none, _ => .error (.unknownOption argument)
      | some flag, [] => .error (.missingValue argument flag)
      | some flag, value :: rest => do
        let extended ← options.add value flag
        extended.parseFrom rest

/-- What the arguments ask for. -/
def Request.parse (arguments : List String) : Except ArgumentError Request :=
  Options.empty.parseFrom arguments

/-- How the program is used. -/
def usage : List String :=
  ["Usage: sheep [OPTIONS]",
    "",
    "Options:",
    "  --config <FILE>           Load sheet settings from a TOML file",
    "  -e, --edit <CELL:FORMULA> Apply an edit (can be repeated)",
    "  -i, --input <FILE>        Apply edits from a file, one per line (- for stdin)",
    "  -d, --dependents <CELL>   Print the cells depending on CELL instead of the grid",
    "  -o, --output <FILE>       Export to markdown file",
    "  -h, --help                Print help"]

end Spreadsheet.CommandLine
