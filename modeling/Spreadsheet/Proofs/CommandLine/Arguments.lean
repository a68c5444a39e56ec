import Mathlib.Data.List.Basic
import Mathlib.Data.Option.Basic
import Spreadsheet.CommandLine.Options

namespace Spreadsheet.CommandLine

/-!
# Options that arguments ask for

The arguments of a command line interleave the values of several options. What they ask for depends
on the values of each option alone: edits and scripts are all of their values in order, and of the
settings file, the cell and the output file the last value counts. So the order between different
options makes no difference.
-/

/-- The values that the arguments give to one option, in order. -/
def valuesOf (flag : Flag) : List String → List String
  | argument :: value :: later =>
    if Flag.ofArgument? argument = some flag then
      value :: valuesOf flag later
    else
      valuesOf flag later
  | _ => []

/-- The options after the arguments are those before them with the values that are given. -/
structure Options.Collects
    (before after : Options)
    (arguments : List String) : Prop where
  settingsFile_eq :
    after.settingsFile = (valuesOf .settings arguments).getLast?.or before.settingsFile
  edits_eq :
    after.edits.map Except.ok =
      before.edits.map Except.ok ++ (valuesOf .edit arguments).map Edit.parse
  scripts_eq :
    after.scripts = before.scripts ++ valuesOf .script arguments
  dependentsOf_eq :
    after.dependentsOf.map Except.ok =
      ((valuesOf .dependents arguments).map Address.parse).getLast?.or
        (before.dependentsOf.map Except.ok)
  outputFile_eq :
    after.outputFile = (valuesOf .output arguments).getLast?.or before.outputFile

/-- A later value counts, if there is one. -/
theorem getLast?_cons_or
    {α : Type}
    (value : α)
    (later : List α)
    (before : Option α) :
    (value :: later).getLast?.or before = later.getLast?.or (some value) := by
  rw [List.getLast?_cons]
  cases later.getLast? <;> rfl

/-- What an option with a readable value adds is the value. -/
theorem Options.add_eq_ok_cases
    {options extended : Options}
    {value : String}
    {flag : Flag}
    (adds : options.add value flag = .ok extended) :
    (flag = .settings ∧ extended = { options with settingsFile := some value }) ∨
    (flag = .edit ∧ ∃ edit, Edit.parse value = .ok edit ∧
      extended = { options with edits := options.edits ++ [edit] }) ∨
    (flag = .script ∧ extended = { options with scripts := options.scripts ++ [value] }) ∨
    (flag = .dependents ∧ ∃ address, Address.parse value = .ok address ∧
      extended = { options with dependentsOf := some address }) ∨
    (flag = .output ∧ extended = { options with outputFile := some value }) := by
  cases flag with
  | settings | script | output =>
      obtain rfl := Except.ok.inj adds
      simp
  | edit =>
      cases parses : Edit.parse value with
      | error cause =>
          simp [add, parses, Except.mapError, bind, Except.bind] at adds
      | ok edit =>
          simp only [add, parses, Except.mapError, bind, Except.bind] at adds
          obtain rfl := Except.ok.inj adds
          simp
  | dependents =>
      cases parses : Address.parse value with
      | error cause =>
          simp [add, parses, Except.mapError, bind, Except.bind] at adds
      | ok address =>
          simp only [add, parses, Except.mapError, bind, Except.bind] at adds
          obtain rfl := Except.ok.inj adds
          simp

/-- One more option with its value in front adds the value to what the later arguments give. -/
theorem Options.Collects.cons
    {options extended after : Options}
    {argument value : String}
    {flag : Flag}
    {later : List String}
    (named : Flag.ofArgument? argument = some flag)
    (adds : options.add value flag = .ok extended)
    (collects : extended.Collects after later) :
    options.Collects after (argument :: value :: later) := by
  obtain ⟨settingsFile, edits, scripts, dependentsOf, outputFile⟩ := collects
  rcases add_eq_ok_cases adds with
    ⟨rfl, rfl⟩ | ⟨rfl, edit, parses, rfl⟩ | ⟨rfl, rfl⟩ | ⟨rfl, address, reads, rfl⟩ | ⟨rfl, rfl⟩
  · constructor <;>
      simp [valuesOf, named, settingsFile, edits, scripts, dependentsOf, outputFile,
        getLast?_cons_or]
  · constructor <;>
      simp [valuesOf, named, settingsFile, edits, scripts, dependentsOf, outputFile, parses]
  · constructor <;>
      simp [valuesOf, named, settingsFile, edits, scripts, dependentsOf, outputFile]
  · constructor <;>
      simp [valuesOf, named, settingsFile, edits, scripts, dependentsOf, outputFile, reads,
        getLast?_cons_or]
  · constructor <;>
      simp [valuesOf, named, settingsFile, edits, scripts, dependentsOf, outputFile,
        getLast?_cons_or]

end Spreadsheet.CommandLine
