import Spreadsheet.Config.Settings
import Spreadsheet.Files
import Spreadsheet.Sheet

namespace Spreadsheet

/-!
# Configuration

A configuration says how large a sheet is and which numbers its built-in names have. A settings file
changes the default configuration as a whole or not at all: whatever is wrong with the file becomes
one warning, and the defaults hold.
-/

/-- The dimensions of a sheet and its built-in numbers. -/
structure Config where
  rows : UInt64
  columns : UInt64
  builtIns : Std.ExtTreeMap String Int64

/-- Why a settings file is not used. -/
inductive ConfigWarning where
  | notFound
  /-- Something stands at the path, but the system does not say how large it is. -/
  | unmeasured (reason : String)
  | tooLarge (size : Nat)
  | unreadable (reason : String)
  /-- The text of the file writes no settings, for a reason that need not be known. -/
  | malformed (reason : Option String)
  deriving Repr, DecidableEq

namespace Config

/-- Twenty rows, ten columns and one built-in. -/
def default : Config :=
  ⟨20, 10, (∅ : Std.ExtTreeMap String Int64).insert "life" 42⟩

/-- The configuration with the given settings in place of its own. -/
def apply
    (config : Config)
    (settings : Settings) :
    Config where
  rows := settings.rows.getD config.rows
  columns := settings.columns.getD config.columns
  builtIns := settings.builtIns.getD config.builtIns

/-- The largest settings file that is read, in bytes. -/
def sizeLimit : Nat := 1048576

/--
The configuration of a settings file, read in the given way. The file of the user need not exist, but
one that is asked for must.
-/
def loadWith
    (read : SettingsReader)
    (isAskedFor : Bool)
    (entry : FileEntry) :
    Config × Option ConfigWarning :=
  match entry.size? with
  | none => (default, if isAskedFor then some .notFound else none)
  | some size =>
    if sizeLimit < size then
      (default, some (.tooLarge size))
    else
      match entry.text with
      | .error cause => (default, some (.unreadable cause.message))
      | .ok text =>
        match read text with
        | .error reason => (default, some (.malformed reason))
        | .ok settings => (default.apply settings, none)

/-- The configuration of a settings file. -/
def load
    (isAskedFor : Bool)
    (entry : FileEntry) :
    Config × Option ConfigWarning :=
  loadWith Settings.read isAskedFor entry

/-- The built-ins as expressions, in the order of their names. -/
def bindings (config : Config) : List (String × Expression) :=
  config.builtIns.toList.map fun (name, value) => (name, .constant value)

/-- An empty sheet of the configuration. -/
def buildSheet (config : Config) : Except SheetError Sheet :=
  Sheet.build config.rows config.columns .empty config.bindings

end Config

/-- The warning about the settings file at a path, in words. -/
def ConfigWarning.message
    (path : String) :
    ConfigWarning → String
  | .notFound => "Config file not found: " ++ path
  | .unmeasured reason => "Failed to read metadata for " ++ path ++ ": " ++ reason
  | .tooLarge size =>
    "Refusing to read " ++ path ++ ": file too large (" ++ size.repr ++ " bytes, max " ++
      Config.sizeLimit.repr ++ ")"
  | .unreadable reason => "Failed to read " ++ path ++ ": " ++ reason
  | .malformed none => "Failed to parse " ++ path
  | .malformed (some reason) => "Failed to parse " ++ path ++ ": " ++ reason

end Spreadsheet
