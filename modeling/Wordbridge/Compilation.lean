import Wordbridge.Layering
import Wordbridge.Options
import Wordbridge.Substitution
import Wordbridge.Transliteration

/-!
# Compilation

To compile a script, its transliteration directives are replaced, then its
lexicon is put together, and then its words are replaced.
-/

namespace Wordbridge

inductive CompileError where
  | missingMapFile (path : String)
  | mapFile (error : MapFileError)
  | directive (error : InvalidDirective)
  deriving DecidableEq, Repr

def CompileError.message : CompileError → String
  | .missingMapFile path => s!"map file {path} does not exist"
  | .mapFile error => error.message
  | .directive error => error.message

/-- What went wrong without keeping a script from being compiled. -/
inductive CompileWarning where
  | missingMapFile (path : String)
  deriving DecidableEq, Repr

structure Compiled where
  text : Text
  /-- The lexicon whose words were replaced. -/
  lexicon : Lexicon
  warnings : List CompileWarning

/-- The warnings about a map file. Under the policy to abort, a missing one is an error. -/
def checkExternal (policy : MissingMapPolicy) :
    External → Except CompileError (List CompileWarning)
  | .missing path =>
    match policy with
    | .abort => .error (.missingMapFile path)
    | .proceed => .ok [.missingMapFile path]
  | _ => .ok []

/-- Compiles a script. `map` is the map file that the options name, as it was read. -/
def compile [RegexCompiler] (units : UnitTable) (builtin : Lexicon) (options : Options)
    (map : Option MapFile) (direction : Direction) (source : Text) :
    Except CompileError Compiled := do
  let transliterator ← (Transliterator.ofName options.directive units).mapError .directive
  let builtin := if options.ignoreBuiltin then Lexicon.empty else builtin
  let layered ← (layer builtin map options.charset direction
    (transliterator.transliterate source)).mapError .mapFile
  let warnings ← checkExternal options.missingMap layered.external
  return {
    text := layered.lexicon.substitute direction layered.source
    lexicon := layered.lexicon
    warnings := warnings }

variable {m : Type → Type} [Monad m] [FileAccess m]

def readMapFile (options : Options) : m (Option MapFile) := do
  match options.map with
  | none => return none
  | some path => return some ⟨path, ← FileAccess.read path⟩

end Wordbridge
