import Spreadsheet.Files

namespace Spreadsheet

/-!
# File trees

A tree of directories and files in memory, with a working directory where relative paths begin.
The parts of a path are separated by slashes; an empty part and a single dot stay where they are, and
two dots lead to the parent, which for the root is the root.
-/

/-- A file, or a directory with named entries. -/
inductive FileNode where
  | file (content : ByteArray)
  | directory (entries : List (String × FileNode))

/-- A tree of files and the parts of the path of its working directory. -/
structure FileTree where
  root : FileNode
  workingDirectory : List String

namespace FileNode

/-- The entry of a name. -/
def child?
    (entries : List (String × FileNode))
    (name : String) :
    Option FileNode :=
  entries.lookup name

/-- The entries with a node under a name, in place of the node that the name has. -/
def putChild
    (name : String)
    (node : FileNode) :
    List (String × FileNode) → List (String × FileNode)
  | [] => [(name, node)]
  | (other, old) :: later =>
    if other == name then (name, node) :: later
    else (other, old) :: putChild name node later

/-- The node with another node under some names, and with directories for the names before the last. -/
def put
    (placed : FileNode) :
    List String → FileNode → FileNode
  | [], _ => placed
  | name :: later, .directory entries =>
    .directory (putChild name (put placed later ((child? entries name).getD (.directory []))) entries)
  | name :: later, .file _ =>
    .directory [(name, put placed later (.directory []))]

end FileNode

/-- A node that a path leads to: its directories from the innermost to the root, with their names. -/
structure FilePlace where
  node : FileNode
  /-- The parent directories, each with the name that leads on from it. -/
  parents : List (FileNode × String)

namespace FilePlace

/-- The names that lead from the root to the place. -/
def names (place : FilePlace) : List String :=
  (place.parents.map Prod.snd).reverse

/-- The longest name of a file, in bytes. -/
def nameLimit : Nat := 255

/-- Follows one part of a path. -/
def follow
    (place : FilePlace)
    (part : String) :
    Except FileError FilePlace :=
  match place.node with
  | .file _ => .error .notDirectory
  | .directory entries =>
    if part == "" || part == "." then
      .ok place
    else if part == ".." then
      match place.parents with
      | [] => .ok place
      | (parent, _) :: above => .ok ⟨parent, above⟩
    else if nameLimit < part.utf8ByteSize then
      .error .nameTooLong
    else
      match FileNode.child? entries part with
      | some node => .ok ⟨node, (place.node, part) :: place.parents⟩
      | none => .error .notFound

end FilePlace

namespace FileTree

/-- The parts between the slashes of a path. -/
def parts (path : List Char) : List String :=
  (path.foldr
    (fun character parts =>
      if character == '/' then [] :: parts
      else
        match parts with
        | [] => [[character]]
        | part :: later => (character :: part) :: later)
    [[]]).map String.ofList

/-- Follows parts of a path from the root. -/
def walk
    (tree : FileTree)
    (parts : List String) :
    Except FileError FilePlace :=
  parts.foldlM FilePlace.follow ⟨tree.root, []⟩

/-- The longest path, in bytes. -/
def pathLimit : Nat := 4095

/-- The parts that lead from the root to what a path names. -/
def absolute
    (tree : FileTree)
    (path : String) :
    Except FileError (List String) :=
  let characters := path.toList
  if characters.isEmpty then
    .error .notFound
  else if pathLimit < path.utf8ByteSize then
    .error .nameTooLong
  else if characters.head? == some '/' then
    .ok (parts characters)
  else
    .ok (tree.workingDirectory ++ parts characters)

/-- What stands at a path. -/
def entry
    (tree : FileTree)
    (path : String) :
    FileEntry :=
  match tree.absolute path >>= tree.walk with
  | .error cause => .absent cause
  | .ok place =>
    match place.node with
    | .directory _ => .directory smallDirectorySize
    | .file content => .file content

/-- The tree with a file at a path; the file may be new, but its directory must exist. -/
def write
    (tree : FileTree)
    (path : String)
    (content : ByteArray) :
    Except FileError FileTree := do
  let parts ← tree.absolute path
  match parts.reverse.dropWhile (· == "") with
  | [] => .error .isDirectory
  | name :: above => do
    let parent ← tree.walk above.reverse
    match parent.node with
    | .file _ => .error .notDirectory
    | .directory entries =>
      if parts.getLast? == some "" || name == "." || name == ".." then
        .error .isDirectory
      else if FilePlace.nameLimit < name.utf8ByteSize then
        .error .nameTooLong
      else
        match FileNode.child? entries name with
        | some (.directory _) => .error .isDirectory
        | _ =>
          .ok { tree with root := FileNode.put (.file content) (parent.names ++ [name]) tree.root }

/--
The tree with a directory for each part of a path where nothing is, so that the parts that lead to a
parent have something to lead on from. The path begins at the directory of the given names.
-/
def makeDirectories : FileTree → List String → List String → FileTree
  | tree, _, [] => tree
  | tree, names, part :: later =>
    if part == "" || part == "." then
      tree.makeDirectories names later
    else if part == ".." then
      tree.makeDirectories names.dropLast later
    else
      let inner := names ++ [part]
      match tree.walk inner with
      | .error .notFound =>
        makeDirectories { tree with root := FileNode.put (.directory []) inner tree.root } inner later
      | _ => tree.makeDirectories inner later

/-- The tree with a file at a path, and with the directories that the path leads through. -/
def add
    (tree : FileTree)
    (path : String)
    (content : ByteArray) :
    Except FileError FileTree := do
  let parts ← tree.absolute path
  (tree.makeDirectories [] parts.dropLast).write path content

end FileTree

end Spreadsheet
