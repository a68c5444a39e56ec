namespace Spreadsheet

/-!
# Files

What can stand at a path, and why it cannot be read or written.
-/

/-- The reasons for which the system cannot read or write a file. -/
inductive FileError where
  | notFound
  | permissionDenied
  /-- A part of the path that should be a directory is none. -/
  | notDirectory
  | isDirectory
  | nameTooLong
  /-- A reason of another kind, in the words of the system. -/
  | other (reason : String)
  deriving Repr, DecidableEq

/-- The reason in the words of the system. -/
def FileError.message : FileError → String
  | .notFound => "No such file or directory (os error 2)"
  | .permissionDenied => "Permission denied (os error 13)"
  | .notDirectory => "Not a directory (os error 20)"
  | .isDirectory => "Is a directory (os error 21)"
  | .nameTooLong => "File name too long (os error 36)"
  | .other reason => reason

/-- The reason that is given for a text that is not valid UTF-8. -/
def invalidEncodingReason : String :=
  "stream did not contain valid UTF-8"

/-- The size in bytes that the system gives a directory with few entries. -/
def smallDirectorySize : Nat := 4096

/-- What stands at a path. -/
inductive FileEntry where
  /-- The path leads to nothing. -/
  | absent (cause : FileError)
  /-- There is a directory, of a size that depends on the file system. -/
  | directory (size : Nat := smallDirectorySize)
  /-- There is a file of a size, but it cannot be opened. -/
  | unreadable (size : Nat) (cause : FileError)
  | file (content : ByteArray)

namespace FileEntry

/-- The size in bytes of what stands at the path, if anything does. -/
def size? : FileEntry → Option Nat
  | .absent _ => none
  | .directory size | .unreadable size _ => some size
  | .file content => some content.size

/-- The text of the file at the path, which must be valid UTF-8. -/
def text : FileEntry → Except FileError String
  | .absent cause | .unreadable _ cause => .error cause
  | .directory _ => .error .isDirectory
  | .file content =>
    match String.fromUTF8? content with
    | some text => .ok text
    | none => .error (.other invalidEncodingReason)

end FileEntry

end Spreadsheet
