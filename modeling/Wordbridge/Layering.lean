import Wordbridge.FileAccess
import Wordbridge.WordDirective

/-!
# Layers of a lexicon

A script is compiled with the words of three layers: the built-in names, the
map file, and the directives of the script itself. Where they differ, the
later layer holds. Directives belong to the dialect, so a Lua script has none.
-/

namespace Wordbridge

/-- A map file that was asked for, and what reading it gave. -/
structure MapFile where
  path : String
  content : Except FileError Bytes

/-- Why a map file is of no use, other than not being there. -/
inductive MapFileError where
  | unreadable (path : String) (error : FileError)
  | undecodable (path : String) (error : CharsetError)
  deriving DecidableEq, Repr

def MapFileError.message : MapFileError → String
  | .unreadable path error => s!"failed to read map file {path}: {error.message}"
  | .undecodable path error => s!"failed to decode map file {path}: {error.message}"

/-- The words of a map file; `none` if the file does not exist. -/
def MapFile.lexicon? (file : MapFile) (charset : Charset) : Except MapFileError (Option Lexicon) :=
  match file.content with
  | .error .notFound => .ok none
  | .error error => .error (.unreadable file.path error)
  | .ok bytes =>
    match charset.decode bytes with
    | .error error => .error (.undecodable file.path error)
    | .ok text => .ok (some (Lexicon.ofMapFile text))

inductive External where
  | notRequested
  | loaded (path : String) (entries : Nat)
  | missing (path : String)
  deriving DecidableEq, Repr

def External.isMissing : External → Bool
  | .missing _ => true
  | _ => false

structure Layered where
  lexicon : Lexicon
  source : Text
  external : External
  /-- The number of words that the script's directives write. -/
  inlineEntries : Nat

/-- The words of the map file, and what became of it. -/
def externalLayer (map : Option MapFile) (charset : Charset) :
    Except MapFileError (Lexicon × External) :=
  match map with
  | none => .ok (.empty, .notRequested)
  | some file => do
    match ← file.lexicon? charset with
    | some lexicon => return (lexicon, .loaded file.path lexicon.size)
    | none => return (.empty, .missing file.path)

def inlineLayer (direction : Direction) (source : Text) : Lexicon × Text :=
  match direction with
  | .forward => WordDirective.extract source
  | .reverse => (.empty, source)

/-- The lexicon of a script from its layers, the longest words first. -/
def layer (builtin : Lexicon) (map : Option MapFile) (charset : Charset) (direction : Direction)
    (source : Text) : Except MapFileError Layered := do
  let (outer, external) ← externalLayer map charset
  let (inner, source) := inlineLayer direction source
  return {
    lexicon := ((builtin.merge outer).merge inner).sort
    source := source
    external := external
    inlineEntries := inner.size }

end Wordbridge
