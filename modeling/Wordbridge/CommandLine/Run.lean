import Wordbridge.CommandLine.Setup
import Wordbridge.Compilation
import Wordbridge.Report

/-!
# Running commands

`CommandLine.run` carries out a command line and gives its outcome: the exit
status and what is written to the two streams. The only command that writes a
file is `compile`, which writes its output last.
-/

namespace Wordbridge.CommandLine

structure Outcome where
  /-- 0 for success, 1 for a failure, 2 for a command line that is not understood, 101 for a fault
  of the program. -/
  status : Nat
  stdout : String := ""
  stderr : String := ""
  deriving DecidableEq, Repr

def Outcome.failed (message : String) (stdout : String := "") : Outcome :=
  ⟨1, stdout, message ++ "\n"⟩

/-- The end of a run in which something happens that cannot. -/
def Outcome.crashed (expectation : String) : Outcome :=
  ⟨101, "", expectation ++ "\n"⟩

def missingMapMessage (path : String) : String :=
  s!"File {path} doesn't exist.\n" ++
    "Check again the path to the file (file extension should be \".map.blya\")."

def proceedMessage : String :=
  "Continue compiling."

def abortMessage : String :=
  "Compiling was stopped because \"--stop-on-error\" is set. " ++
    "To compile anyway, remove this flag."

variable {m : Type → Type} [Monad m] [FileAccess m]

/-- Goes on with a result, or stops with its error, after `stdout` has been written. -/
def orStop {ε α : Type} (message : ε → String) (result : Except ε α) (stdout : String := "") :
    ExceptT Outcome m α :=
  match result with
  | .ok a => pure a
  | .error error => throw (.failed (message error) stdout)

/-- Goes on with what cannot fail. -/
def orCrash {ε α : Type} (expectation : String) (result : Except ε α) : ExceptT Outcome m α :=
  match result with
  | .ok a => pure a
  | .error _ => throw (.crashed expectation)

def setUp (flags : Flags) : ExceptT Outcome m (Tables × Options) := do
  match ← installTables (m := m) flags {} with
  | (some error, _) => throw (.failed error.message)
  | (none, tables) =>
    let options ← orStop SetupError.message (← resolveOptions (m := m) flags)
    return (tables, options)

def readScript (path : String) (charset : Charset) : ExceptT Outcome m Text := do
  let bytes ← orStop (fun error => s!"Error reading {path}: {error.message}")
    (← FileAccess.read (m := m) path)
  orStop (fun error => s!"Error decoding {path}: {error.message}") (charset.decode bytes)

def compileScript [RegexCompiler] (tables : Tables) (options : Options) (direction : Direction)
    (source : Text) : ExceptT Outcome m (Except CompileError Compiled) := do
  let (builtin, tables) ← orCrash "names TOML must be valid" tables.readNames
  let map ← readMapFile (m := m) options
  let (result, _) ← orCrash "transliteration TOML must be valid"
    (tables.compile builtin options map direction source)
  return result

def compileFailure : CompileError → String
  | .missingMapFile path => missingMapMessage path ++ "\n" ++ abortMessage
  | error => s!"Error: {error.message}"

def proceedText (warnings : List CompileWarning) : String :=
  String.join (warnings.map fun (.missingMapFile path) =>
    missingMapMessage path ++ "\n" ++ proceedMessage ++ "\n")

/-- Compiles the script at `input` for the file at `output`. Gives the warnings and the bytes. -/
def compileToBytes [RegexCompiler] (input output : String) (flags : Flags) :
    ExceptT Outcome m (String × Bytes) := do
  let (tables, options) ← setUp flags
  let direction ← orStop PathError.message (← checkPaths (m := m) input output)
  let source ← readScript input options.charset
  let compiled ← orStop compileFailure (← compileScript tables options direction source)
  let warnings := proceedText compiled.warnings
  let bytes ← orStop (fun error => s!"Error encoding {output}: {error.message}")
    (options.charset.encode compiled.text) warnings
  return (warnings, bytes)

def writeOutput (output warnings : String) (bytes : Bytes) : ExceptT Outcome m Outcome := do
  orStop (fun error => s!"Error writing {output}: {error.message}")
    (← FileAccess.write (m := m) output bytes) warnings
  return { status := 0, stdout := warnings ++ "Compiled successfully.\n" }

def compileFile [RegexCompiler] (input output : String) (flags : Flags) :
    ExceptT Outcome m Outcome := do
  let (warnings, bytes) ← compileToBytes input output flags
  writeOutput output warnings bytes

def directionName : Direction → String
  | .forward => "Forward"
  | .reverse => "Reverse"

/-- Shows the lexicon with which the script at `input` is compiled. -/
def showMap [RegexCompiler] (input : String) (json : Bool) (flags : Flags) :
    ExceptT Outcome m Outcome := do
  let (tables, options) ← setUp flags
  match Direction.ofPath? input with
  | none => throw (.failed s!"Error: {input}: extension must be \".blya\" or \".lua\"")
  | some direction =>
    let source ← readScript input options.charset
    let compiled ← orStop (fun error => s!"Error: {error.message}")
      (← compileScript tables options direction source)
    let warnings := String.join (compiled.warnings.map fun (.missingMapFile path) =>
      missingMapMessage path ++ "\n")
    if json then
      return { status := 0, stdout := Report.json compiled.lexicon ++ "\n", stderr := warnings }
    else
      let count := s!"{compiled.lexicon.size} entries ({directionName direction})\n"
      return { status := 0, stdout := Report.aligned compiled.lexicon, stderr := warnings ++ count }

def defaultDocument : DocumentKind → String
  | .names => NameTable.defaultText
  | .translit => UnitTable.defaultText
  | .settings => Settings.defaultText

/-- What is said of a valid document, or why it is not valid. -/
def verdict (kind : DocumentKind) (document : Text) : Except String String :=
  match kind with
  | .names =>
    match NameTable.parse document with
    | .ok lexicon => .ok s!"OK: {lexicon.size} names"
    | .error error => .error error.message
  | .translit =>
    match UnitTable.parse document with
    | .ok table => .ok s!"OK: {table.size} units"
    | .error error => .error error.message
  | .settings =>
    match Settings.parse document with
    | .ok settings =>
      .ok (s!"OK: compile.charset={settings.charset.label}, " ++
        s!"compile.stop_on_error={settings.stopOnError}, " ++
        s!"compile.ignore_default_map={settings.ignoreDefaultMap}, " ++
        s!"translit.directive={settings.directive.toStr}")
    | .error error => .error error.message

def validateFile (kind : DocumentKind) (path : String) : ExceptT Outcome m Outcome := do
  let document ← orStop (fun error => s!"Error reading {path}: {error.message}")
    (← readText (m := m) path)
  let line ← orStop (fun reason => s!"Error: {reason}") (verdict kind document)
  return { status := 0, stdout := line ++ "\n" }

def versionLine : String :=
  "bidlua 0.1.0\n"

/-- What is said of a command line that is not understood, and what help there is. -/
def usage : String :=
  "usage: bidlua [-v] <command> [options] [operands]\n"

def perform [RegexCompiler] : Command → ExceptT Outcome m Outcome
  | .version => return { status := 0, stdout := versionLine }
  | .help => return { status := 0, stdout := usage }
  | .compile input output flags => compileFile input output flags
  | .map input json flags => showMap input json flags
  | .exportDefault kind => return { status := 0, stdout := defaultDocument kind }
  | .validate kind file => validateFile kind file

/-- The outcome of a command, whether it comes to its end or stops before. -/
def Outcome.ofResult : Except Outcome Outcome → Outcome
  | .ok outcome | .error outcome => outcome

def run [RegexCompiler] (arguments : List String) : m Outcome := do
  match Command.parse? arguments with
  | none => return { status := 2, stderr := usage }
  | some command => return .ofResult (← (perform command).run)

end Wordbridge.CommandLine
