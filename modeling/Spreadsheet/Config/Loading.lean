import Spreadsheet.Config

namespace Spreadsheet

/-!
# Loading a configuration step by step

A configuration is loaded with questions to the system: whether something stands at a path, how
large it is, and what its text is. Loading begins with the default configuration and no warnings. A
step may then add a warning, or put the settings of a file into the configuration.
-/

/-- What the system answers about a path. It need not give the same account in each of its answers. -/
structure PathAnswers where
  isThere : Bool
  size : Except FileError Nat
  text : Except FileError String

/-- What the system answers where an entry stands. -/
def FileEntry.answers (entry : FileEntry) : PathAnswers where
  isThere := entry.size?.isSome
  size :=
    match entry.size? with
    | some size => .ok size
    | none => .error .notFound
  text := entry.text

/-- A configuration that is being loaded, and the warnings so far, in words. -/
structure Loading where
  config : Config
  warnings : List String

namespace Loading

/-- The default configuration without warnings. -/
def start : Loading :=
  ⟨Config.default, []⟩

/-- Adds a warning about the settings file at a path. -/
def warn
    (path : String)
    (warning : ConfigWarning) :
    StateM Loading Unit :=
  modify fun loading => { loading with warnings := loading.warnings ++ [warning.message path] }

/-- Puts settings into the configuration. -/
def use (settings : Settings) : StateM Loading Unit :=
  modify fun loading => { loading with config := loading.config.apply settings }

/-- Loads the settings file at a path, whose text is read in the given way. -/
def loadFile
    (read : SettingsReader)
    (isAskedFor : Bool)
    (path : String)
    (answers : PathAnswers) :
    StateM Loading Unit := do
  if answers.isThere then
    match answers.size with
    | .error cause => warn path (.unmeasured cause.message)
    | .ok size =>
      if Config.sizeLimit < size then
        warn path (.tooLarge size)
      else
        match answers.text with
        | .error cause => warn path (.unreadable cause.message)
        | .ok text =>
          match read text with
          | .error reason => warn path (.malformed reason)
          | .ok settings => use settings
  else if isAskedFor then
    warn path .notFound

/-- What is loaded from the settings file that is asked for, or else from that of the user. -/
def load
    (read : SettingsReader)
    (askedFor ofUser : Option String)
    (ask : String → PathAnswers) :
    Loading :=
  let steps : StateM Loading Unit :=
    match askedFor.or ofUser with
    | none => pure ()
    | some path => loadFile read askedFor.isSome path (ask path)
  (steps.run start).2

end Loading

end Spreadsheet
