import Spreadsheet.CommandLine.Run

/-!
# The program

Looks up the files that the arguments name, runs the command line on them, writes the document if
there is one, and prints the outcome.
-/

namespace Spreadsheet.CommandLine

/-- The code of a failure has the given number, or its negative. -/
def hasNumber (code number : UInt32) : Bool :=
  code == number || code + number == 0

/-- The reason behind a failure of the system. -/
def fileErrorOf (failure : IO.Error) : FileError :=
  match failure with
  | .noFileOrDirectory .. => .notFound
  | .permissionDenied .. => .permissionDenied
  | .inappropriateType _ code _ => if hasNumber code 20 then .notDirectory else .isDirectory
  | .invalidArgument _ code _ =>
    if hasNumber code 36 then .nameTooLong else .other failure.toString
  | _ => .other failure.toString

/-- What stands at a path. Only the sizes of files that can be opened are looked up. -/
def entryAt (path : String) : IO FileEntry := do
  try
    return .file (← IO.FS.readBinFile path)
  catch failure =>
    return match fileErrorOf failure with
      | .isDirectory => .directory smallDirectorySize
      | .permissionDenied => .unreadable 0 .permissionDenied
      | cause => .absent cause

/-- All that remains of a stream, after some bytes. -/
partial def readAll
    (stream : IO.FS.Stream)
    (before : ByteArray) :
    IO ByteArray := do
  let bytes ← stream.read 65536
  if bytes.isEmpty then
    return before
  else
    readAll stream (before ++ bytes)

/-- The path of the user's settings file. -/
def userSettingsPath : IO (Option String) := do
  let configured := (← IO.getEnv "XDG_CONFIG_HOME").filter (·.startsWith "/")
  let usual := (← IO.getEnv "HOME").map (· ++ "/.config")
  return (configured.or usual).map (· ++ "/sheep/sheep.toml")

/-- Looks up the files that the options name. -/
def lookUp (options : Options) : IO Surroundings := do
  let userSettings ← userSettingsPath
  let paths := options.scripts ++ options.settingsFile.toList ++ userSettings.toList
  let entries ← paths.mapM fun path => return (path, ← entryAt path)
  let input ←
    if options.scripts.contains inputName then readAll (← IO.getStdin) ByteArray.empty
    else pure ByteArray.empty
  return {
    entry := fun path => (entries.lookup path).getD (.absent .notFound)
    input := .file input
    userSettings
    readSettings := Settings.read }

/-- Looks up the files that the arguments name, if they can be understood. -/
def surroundingsOf (arguments : List String) : IO Surroundings :=
  match Request.parse arguments with
  | .ok (.run options) => lookUp options
  | _ => return ⟨fun _ => .absent .notFound, .file ByteArray.empty, none, Settings.read⟩

/-- Writes the document of a report to its file. -/
def save (result : Result) : IO (Except FileError Unit) := do
  match result with
  | .save path text =>
    try
      IO.FS.writeFile path text
      return .ok ()
    catch failure =>
      return .error (fileErrorOf failure)
  | _ => return .ok ()

end Spreadsheet.CommandLine

/-- Runs the program and returns its exit code. -/
def main (arguments : List String) : IO UInt32 := do
  let surroundings ← Spreadsheet.CommandLine.surroundingsOf arguments
  let report := Spreadsheet.CommandLine.run arguments surroundings
  let outcome := report.outcome (← Spreadsheet.CommandLine.save report.result)
  IO.eprint outcome.errors
  IO.print outcome.output
  return outcome.code.toUInt32
