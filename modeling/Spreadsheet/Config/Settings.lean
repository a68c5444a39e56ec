import Spreadsheet.Toml.Document
import Std.Data.ExtTreeMap

namespace Spreadsheet

/-!
# Settings files

A settings file is a TOML document with two tables, both optional. `sheet` has the dimensions `rows`
and `columns`, and may also be an array that gives them in this order. `built_ins` has an integer for
each name. Any other key, and any value of another type, makes the whole file unreadable.
-/

/-- The settings that a file gives. -/
structure Settings where
  rows : Option UInt64
  columns : Option UInt64
  builtIns : Option (Std.ExtTreeMap String Int64)

/-- A way in which the settings of a text are read. Where a text writes none, it may say why. -/
abbrev SettingsReader : Type :=
  String → Except (Option String) Settings

namespace Settings

/-- A number of rows or columns. -/
def dimension? : Toml.Value → Option UInt64
  | .integer value => if 0 ≤ value then Bounded.uint64? value.toInt.toNat else none
  | _ => none

/-- The number of a key, which need not be there but must be a dimension if it is. -/
def dimensionOf?
    (entries : Toml.Entries)
    (key : String) :
    Option (Option UInt64) :=
  match entries.get? key with
  | none => some none
  | some value => some <$> dimension? value

/-- The rows and columns of a `sheet`. -/
def dimensions? : Toml.Value → Option (Option UInt64 × Option UInt64)
  | .table _ entries => do
    guard (entries.all fun (key, _) => key == "rows" || key == "columns")
    let rows ← dimensionOf? entries "rows"
    let columns ← dimensionOf? entries "columns"
    return (rows, columns)
  | .array (rows :: columns :: _) => do
    let rows ← dimension? rows
    let columns ← dimension? columns
    return (some rows, some columns)
  | _ => none

/-- The names of `built_ins` with their integers. -/
def builtIns? : Toml.Value → Option (Std.ExtTreeMap String Int64)
  | .table _ entries =>
    entries.foldlM
      (fun builtIns (name, value) =>
        match value with
        | .integer number => some (builtIns.insert name number)
        | _ => none)
      ∅
  | _ => none

/-- The settings of a document. -/
def ofEntries? (entries : Toml.Entries) : Option Settings := do
  guard (entries.all fun (key, _) => key == "sheet" || key == "built_ins")
  let (rows, columns) ← match entries.get? "sheet" with
    | none => some (none, none)
    | some sheet => dimensions? sheet
  let builtIns ← match entries.get? "built_ins" with
    | none => some none
    | some names => some <$> builtIns? names
  return ⟨rows, columns, builtIns⟩

/-- The settings that a text writes. -/
def read? (text : String) : Option Settings := do
  ofEntries? (← Toml.read? text)

/-- Reads the settings that a text writes, and does not say why it writes none. -/
def read : SettingsReader := fun text =>
  match read? text with
  | some settings => .ok settings
  | none => .error none

end Settings

end Spreadsheet
