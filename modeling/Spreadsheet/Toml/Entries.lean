import Spreadsheet.Toml.Value

namespace Spreadsheet.Toml.Entries

/-!
# Adding to tables

Keys and headers lead along a path of names through nested tables, and tables that do not exist yet
are made on the way. A table between braces is closed. A header may lead through all other tables,
but it can begin a table only once: a table that exists is taken over only if nothing but the headers of
its own tables has named it. A dotted key may lead through tables that have no header of their own, and
it may only add to a table that dotted keys have made.
-/

/-- The value of a key. -/
def get?
    (entries : Entries)
    (key : String) :
    Option Value :=
  entries.lookup key

/-- The entries with a value for a key, in place of the value that the key has. -/
def put
    (key : String)
    (value : Value) :
    Entries → Entries
  | [] => [(key, value)]
  | (name, old) :: later =>
    if name == key then (key, value) :: later
    else (name, old) :: put key value later

/-- The entries with a value for a new key. -/
def insertNew
    (key : String)
    (value : Value)
    (entries : Entries) :
    Option Entries :=
  if (entries.get? key).isSome then none
  else some (entries ++ [(key, value)])

/-- Changes the table at the end of a path; the change is told how that table came about. -/
def changeAt
    (made : Origin)
    (enters : Origin → Bool)
    (change : Origin → Entries → Option Entries) :
    Origin → List String → Entries → Option Entries
  | origin, [], entries => change origin entries
  | _, name :: later, entries =>
    match entries.get? name with
    | none => do
      let inner ← changeAt made enters change made later []
      return entries.put name (.table made inner)
    | some (.table origin inner) =>
      if enters origin then do
        let inner ← changeAt made enters change origin later inner
        return entries.put name (.table origin inner)
      else
        none
    | some (.tables elements) => do
      let last ← elements.getLast?
      let inner ← changeAt made enters change .header later last
      return entries.put name (.tables (elements.dropLast ++ [inner]))
    | some _ => none

/-- Changes the table at the end of the path of a header. -/
def changeAtHeader
    (change : Entries → Option Entries)
    (path : List String)
    (entries : Entries) :
    Option Entries :=
  changeAt .path (· != .braces) (fun _ inner => change inner) .header path entries

/-- Begins the table of a header. -/
def beginTable
    (path : List String)
    (name : String)
    (entries : Entries) :
    Option Entries :=
  changeAtHeader
    (fun parent =>
      match parent.get? name with
      | none => some (parent.put name (.table .header []))
      | some (.table .path inner) => some (parent.put name (.table .header inner))
      | some _ => none)
    path entries

/-- Begins one more table of a repeated header. -/
def beginElement
    (path : List String)
    (name : String)
    (entries : Entries) :
    Option Entries :=
  changeAtHeader
    (fun parent =>
      match parent.get? name with
      | none => some (parent.put name (.tables [[]]))
      | some (.tables elements) => some (parent.put name (.tables (elements ++ [[]])))
      | some _ => none)
    path entries

/-- Adds the value of a dotted key, given as the path of its tables and its last part. -/
def insertDotted
    (path : List String)
    (name : String)
    (value : Value)
    (entries : Entries) :
    Option Entries :=
  changeAt .dotted (fun origin => origin == .path || origin == .dotted)
    (fun origin inner =>
      if path.isEmpty || origin == .dotted then inner.insertNew name value else none)
    .header path entries

end Spreadsheet.Toml.Entries
