import Wordbridge.Charset

/-!
# Access to files

What the commands ask of a file system, and how it can fail. The commands work
over any monad with `FileAccess`: the file system of the machine, or a
`FileTree` in memory.
-/

namespace Wordbridge

inductive FileError where
  | notFound
  /-- The path goes through a file that is no folder. -/
  | notFolder
  | isFolder
  | nameTooLong
  | nulInPath
  /-- The file is read as text, and is not UTF-8. -/
  | notUtf8
  | other (message : String)
  deriving DecidableEq, Repr

def FileError.message : FileError → String
  | .notFound => "No such file or directory (os error 2)"
  | .notFolder => "Not a directory (os error 20)"
  | .isFolder => "Is a directory (os error 21)"
  | .nameTooLong => "File name too long (os error 36)"
  | .nulInPath => "file name contained an unexpected NUL byte"
  | .notUtf8 => "stream did not contain valid UTF-8"
  | .other message => message

class FileAccess (m : Type → Type) where
  read : String → m (Except FileError Bytes)
  /-- Whether there is a file, not a folder, at a path. -/
  isFile : String → m Bool
  /-- Replaces the content of a file, or makes the file. -/
  write : String → Bytes → m (Except FileError Unit)

variable {m : Type → Type} [Monad m] [FileAccess m]

/-- The text of a file in UTF-8; a byte order mark is part of it. -/
def readText (path : String) : m (Except FileError Text) := do
  match ← FileAccess.read path with
  | .error error => return .error error
  | .ok bytes => return (Utf8.decode bytes).mapError fun _ => .notUtf8

end Wordbridge
