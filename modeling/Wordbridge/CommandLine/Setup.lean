import Wordbridge.CommandLine.Arguments
import Wordbridge.FileAccess
import Wordbridge.Settings
import Wordbridge.Tables

/-!
# Setting up a compilation

What a command does before it compiles: it installs the tables that the flags
name, puts the options together from the settings and the flags, and checks
the paths of the script.
-/

namespace Wordbridge.CommandLine

inductive SetupError where
  | read (path : String) (error : FileError)
  | settings (path : String) (error : Settings.Error)
  | names (path : String) (error : NameTable.Error)
  | units (path : String) (error : UnitTable.Error)
  | unknownCharset (name : String)
  deriving DecidableEq, Repr

def SetupError.message : SetupError → String
  | .read path error => s!"Error reading {path}: {error.message}"
  | .settings path error => s!"Error in {path}: {error.message}"
  | .names path error => s!"Error in {path}: {error.message}"
  | .units path error => s!"Error in {path}: {error.message}"
  | .unknownCharset name => s!"Unknown charset: {name}"

inductive PathError where
  | extension (input output : String)
  | inputMissing (path : String)
  deriving DecidableEq, Repr

def PathError.message : PathError → String
  | .extension input output =>
    "Input and output extension must be \".blya\" or \".lua\". " ++
      s!"< input > path: {input}; < output > path: {output}"
  | .inputMissing path => s!"File in < input > doesn't exist: {path}"

variable {m : Type → Type} [Monad m] [FileAccess m]

def readDocument (path : String) : m (Except SetupError Text) := do
  return (← readText path).mapError (.read path)

/-- Installs the document at a path, if there is one. -/
def installDocument {ε : Type} (install : Text → Except ε Tables)
    (refused : String → ε → SetupError) (path : Option String) (tables : Tables) :
    m (Except SetupError Tables) := do
  match path with
  | none => return .ok tables
  | some path =>
    match ← readDocument path with
    | .error error => return .error error
    | .ok document => return (install document).mapError (refused path)

/-- Installs the tables that the flags name, the name table first. Gives the tables afterwards,
and the error that kept the rest from being installed. -/
def installTables (flags : Flags) (tables : Tables) : m (Option SetupError × Tables) := do
  match ← installDocument tables.installNames .names flags.names tables with
  | .error error => return (some error, tables)
  | .ok tables =>
    match ← installDocument tables.installUnits .units flags.translit tables with
    | .error error => return (some error, tables)
    | .ok tables => return (none, tables)

/-- The settings of the file that the flags name, or the default. -/
def readSettings (flags : Flags) : m (Except SetupError Settings) := do
  match flags.config with
  | none => return .ok Settings.default
  | some path =>
    match ← readDocument path with
    | .error error => return .error error
    | .ok document => return (Settings.parse document).mapError (.settings path)

/-- The options of the settings, with those of the flags in their place. -/
def overrideOptions (flags : Flags) (options : Options) : Except SetupError Options := do
  let charset ←
    match flags.charset with
    | none => .ok options.charset
    | some name => (Charset.ofName name).mapError fun _ => .unknownCharset name
  return { options with
    charset := charset
    map := flags.map.or options.map
    missingMap := if flags.stopOnError then .abort else options.missingMap
    ignoreBuiltin := flags.ignoreDefaultMap || options.ignoreBuiltin }

def resolveOptions (flags : Flags) : m (Except SetupError Options) := do
  match ← readSettings flags with
  | .error error => return .error error
  | .ok settings => return overrideOptions flags settings.options

/-- Checks the paths of a compilation: both have to have an extension of a script, and the input
has to be a file. Gives the direction. -/
def checkPaths (input output : String) : m (Except PathError Direction) := do
  match Direction.ofPath? input, Direction.ofPath? output with
  | some direction, some _ =>
    if ← FileAccess.isFile input then return .ok direction else return .error (.inputMissing input)
  | _, _ => return .error (.extension input output)

end Wordbridge.CommandLine
