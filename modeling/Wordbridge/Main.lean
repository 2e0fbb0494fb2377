import Wordbridge.CommandLine.Run

/-!
# The program

The command line on the files of the machine.
-/

namespace Wordbridge

def FileError.ofCode (code : UInt32) (details : String) : FileError :=
  match code with
  | 2 => .notFound
  | 20 => .notFolder
  | 21 => .isFolder
  | 36 => .nameTooLong
  | _ => .other s!"{details} (os error {code})"

def FileError.ofSystem : IO.Error → FileError
  | .noFileOrDirectory _ code details => .ofCode code details
  | .inappropriateType _ code details => .ofCode code details
  | .invalidArgument _ code details => .ofCode code details
  | .permissionDenied _ code details => .ofCode code details
  | .resourceExhausted _ code details => .ofCode code details
  | .unsupportedOperation code details => .ofCode code details
  | .otherError code details => .ofCode code details
  | error => .other (toString error)

/-- The result of an action on the file at a path, which must not hold the character NUL. -/
def FileError.guarded {α : Type} (path : String) (action : IO α) : IO (Except FileError α) := do
  if path.contains '\x00' then return .error .nulInPath
  try
    return .ok (← action)
  catch error =>
    return .error (.ofSystem error)

def readFile (path : String) : IO (Except FileError ByteArray) :=
  FileError.guarded path do
    (← IO.FS.Handle.mk path .read).readBinToEnd

/-- The files of the machine. What can be read, or is only out of reach, is a file. -/
instance : FileAccess IO where
  read path := do
    return (← readFile path).map ByteArray.toList
  isFile path := do
    match ← readFile path with
    | .ok _ | .error (.other _) => return true
    | .error _ => return false
  write path content := FileError.guarded path (IO.FS.writeBinFile path ⟨content.toArray⟩)

end Wordbridge

def main (arguments : List String) : IO UInt32 := do
  let outcome ← (Wordbridge.CommandLine.run arguments : IO Wordbridge.CommandLine.Outcome)
  IO.print outcome.stdout
  IO.eprint outcome.stderr
  return outcome.status.toUInt32
