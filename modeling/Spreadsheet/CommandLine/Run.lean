import Spreadsheet.CommandLine.Options
import Spreadsheet.Config
import Spreadsheet.Edit.Script
import Spreadsheet.Files.Tree
import Spreadsheet.Sheet.Dependents
import Spreadsheet.Sheet.Edits
import Spreadsheet.View.Table

namespace Spreadsheet.CommandLine

/-!
# Running a command line

A run builds the sheet of the configuration, applies the edits of all scripts and then those of the
arguments, and ends with the cells that depend on a cell, with a document in a file, or with the table.
Refused edits are reported and make the run unsuccessful, but do not end it. The run itself only
looks at its surroundings; the one file it may write is part of its result.
-/

/--
What a run can see: the file at each path, its input, and the path of the user's settings. The way
in which settings are read is not its own either.
-/
structure Surroundings where
  entry : String → FileEntry
  input : FileEntry
  userSettings : Option String
  readSettings : SettingsReader

/-- What a run ends with. -/
inductive Result where
  /-- The run has been given up. -/
  | nothing
  /-- Text to be printed. -/
  | print (text : String)
  /-- A document to be written to a file. -/
  | save (path : String) (text : String)

/-- Messages, whether all went well, and the result. -/
structure Report where
  messages : List String
  isSuccess : Bool
  result : Result

/-- Exit code, output and error output of a command line. -/
structure Outcome where
  code : Nat
  output : String
  errors : String
  deriving Repr, DecidableEq

/-- A message that reports an error. -/
def errorMessage (text : String) : String :=
  "Error: " ++ text

/-- A sheet on which edits are being made, with the messages so far. -/
structure Progress where
  sheet : Sheet
  messages : List String
  isSuccess : Bool

/-- Applies edits and reports those that are refused. -/
def Progress.apply
    (progress : Progress)
    (edits : List Edit) :
    Progress :=
  let (sheet, refusals) := progress.sheet.applyEdits edits
  let messages := refusals.map fun (edit, cause) =>
    errorMessage (edit.address.text ++ ": " ++ cause.message)
  ⟨sheet, progress.messages ++ messages, progress.isSuccess && refusals.isEmpty⟩

/-- The edits of the script at a path, or the message that it cannot be read. -/
def readScript
    (path : String)
    (entry : FileEntry) :
    Except String (List Edit) :=
  let opened : Except String (Except ScriptError (List Edit)) :=
    match entry with
    | .absent cause | .unreadable _ cause =>
      .error ("Failed to open " ++ path ++ ": " ++ cause.message)
    | .directory _ => .ok (.error (.unreadable .isDirectory))
    | .file content => .ok (Script.read content)
  do
    let read ← opened
    read.mapError fun cause => "Failed to read edits from " ++ path ++ ": " ++ cause.fullMessage

/-- The name of the script that is read from the input. -/
def inputName : String := "-"

/-- The scripts of the paths. The input can be read once and is empty after that. -/
def scriptEntries
    (surroundings : Surroundings) :
    FileEntry → List String → List (String × FileEntry)
  | _, [] => []
  | input, path :: later =>
    if path == inputName then
      (path, input) :: scriptEntries surroundings (.file ByteArray.empty) later
    else
      (path, surroundings.entry path) :: scriptEntries surroundings input later

/-- Applies scripts in order, up to one that cannot be read, which gives the messages up to it. -/
def Progress.applyScripts :
    Progress → List (String × FileEntry) → Except (List String) Progress
  | progress, [] => .ok progress
  | progress, (path, entry) :: later =>
    match readScript path entry with
    | .ok edits => (progress.apply edits).applyScripts later
    | .error text => .error (progress.messages ++ [errorMessage text])

/-- The cells that depend on a cell, one on each line. -/
def dependentsText
    (sheet : Sheet)
    (address : Address) :
    String :=
  String.join ((sheet.dependentsByColumn address).map (·.text ++ "\n"))

/-- What the options want to see of the sheet. -/
def Options.result
    (options : Options)
    (sheet : Sheet) :
    Result :=
  match options.dependentsOf, options.outputFile with
  | some address, _ => .print (dependentsText sheet address)
  | none, some path => .save path sheet.view.document
  | none, none => .print sheet.view.table

/-- The configuration that the options ask for, with a message if its file is not used. -/
def Options.config
    (options : Options)
    (surroundings : Surroundings) :
    Config × List String :=
  match options.settingsFile.or surroundings.userSettings with
  | none => (Config.default, [])
  | some path =>
    let (config, warning) :=
      Config.loadWith surroundings.readSettings options.settingsFile.isSome
        (surroundings.entry path)
    (config, (warning.map fun cause => "Warning: " ++ cause.message path).toList)

/-- The report of a run with the given options. -/
def Options.run
    (options : Options)
    (surroundings : Surroundings) :
    Report :=
  let (config, warnings) := options.config surroundings
  match config.buildSheet with
  | .error cause =>
    ⟨warnings ++ [errorMessage ("Invalid sheet configuration: " ++ cause.message)], false, .nothing⟩
  | .ok sheet =>
    let scripts := scriptEntries surroundings surroundings.input options.scripts
    match (Progress.mk sheet warnings true).applyScripts scripts with
    | .error messages => ⟨messages, false, .nothing⟩
    | .ok progress =>
      let final := progress.apply options.edits
      ⟨final.messages, final.isSuccess, options.result final.sheet⟩

/-- The report on a command line. -/
def run
    (arguments : List String)
    (surroundings : Surroundings) :
    Report :=
  match Request.parse arguments with
  | .ok .help => ⟨usage, true, .nothing⟩
  | .ok (.run options) => options.run surroundings
  | .error cause =>
    let help := match cause with
      | .unknownOption _ => usage
      | _ => []
    ⟨errorMessage cause.message :: help, false, .nothing⟩

/-- The outcome of a report, once it is known whether the document could be written. -/
def Report.outcome
    (report : Report)
    (saved : Except FileError Unit) :
    Outcome :=
  let code := if report.isSuccess then 0 else 1
  let errors := fun messages : List String => String.join (messages.map (· ++ "\n"))
  match report.result with
  | .nothing => ⟨code, "", errors report.messages⟩
  | .print text => ⟨code, text, errors report.messages⟩
  | .save path _ =>
    match saved with
    | .ok () => ⟨code, "Exported to " ++ path ++ "\n", errors report.messages⟩
    | .error cause =>
      let message := errorMessage ("Failed to write " ++ path ++ ": " ++ cause.message)
      ⟨1, "", errors (report.messages ++ [message])⟩

/-- The outcome of a command line in a file tree, and the tree after it. -/
def runIn
    (tree : FileTree)
    (input : ByteArray)
    (userSettings : Option String)
    (arguments : List String) :
    Outcome × FileTree :=
  let report := run arguments ⟨tree.entry, .file input, userSettings, Settings.read⟩
  match report.result with
  | .save path text =>
    match tree.write path text.toUTF8 with
    | .ok changed => (report.outcome (.ok ()), changed)
    | .error cause => (report.outcome (.error cause), tree)
  | _ => (report.outcome (.ok ()), tree)

end Spreadsheet.CommandLine
