import Wordbridge.Text

/-!
# Command-line arguments

The grammar of the command line: a command by name, its options `--name value`
or `--name=value`, its switches, and its operands, in any order. `--` ends the
options. Nothing may be given twice, abbreviated or left out, and a path may
not be empty. `--verbose` (`-v`) goes with every command and may also come
before its name; `--version` (`-V`) comes before it. `--help` (`-h`) may come
anywhere, and nothing behind it is looked at.
-/

namespace Wordbridge.CommandLine

/-- The options of the commands that compile. -/
structure Flags where
  charset : Option String := none
  map : Option String := none
  stopOnError : Bool := false
  ignoreDefaultMap : Bool := false
  config : Option String := none
  names : Option String := none
  /-- The path of the unit table. -/
  translit : Option String := none
  deriving DecidableEq, Repr

/-- The kinds of documents that the commands export and validate. -/
inductive DocumentKind where
  | names
  | translit
  | settings
  deriving DecidableEq, Repr

inductive Command where
  | version
  | help
  | compile (input output : String) (flags : Flags)
  | map (input : String) (json : Bool) (flags : Flags)
  | exportDefault (kind : DocumentKind)
  | validate (kind : DocumentKind) (file : String)
  deriving DecidableEq, Repr

structure Grammar where
  /-- The options that take any value. -/
  values : List String := []
  /-- The options that take a path. -/
  paths : List String := []
  switches : List String := ["--verbose"]
  operands : Nat := 0
  pathOperands : Bool := false

structure Arguments where
  options : List (String × String) := []
  switches : List String := []
  operands : List String := []
  help : Bool := false
  deriving DecidableEq, Repr

namespace Arguments

/-- Adds an option that is not given yet. A path must not be empty. -/
def addOption (grammar : Grammar) (arguments : Arguments) (name value : String) : Option Arguments :=
  if (arguments.options.lookup name).isSome || (name ∈ grammar.paths && value = "") then none
  else some { arguments with options := arguments.options ++ [(name, value)] }

def addSwitch (arguments : Arguments) (name : String) : Option Arguments :=
  if name ∈ arguments.switches then none
  else some { arguments with switches := arguments.switches ++ [name] }

def addOperand (grammar : Grammar) (arguments : Arguments) (operand : String) : Option Arguments :=
  if grammar.operands ≤ arguments.operands.length || (grammar.pathOperands && operand = "") then none
  else some { arguments with operands := arguments.operands ++ [operand] }

/-- Adds the switches that the letters behind a hyphen stand for. -/
def addLetters (arguments : Arguments) : List Char → Option Arguments
  | [] => some arguments
  | c :: letters =>
    if c = 'h' then some { arguments with help := true }
    else if c = 'v' then do addLetters (← arguments.addSwitch "--verbose") letters
    else none

end Arguments

/-- An argument before its first equals sign, and what follows that, if there is one. -/
def splitEquals (argument : String) : String × Option String :=
  let text := argument.toList
  let name := text.takeWhile (· ≠ '=')
  if name.length < text.length then
    (Text.toStr name, some (Text.toStr (text.drop (name.length + 1))))
  else (argument, none)

/-- Whether an argument looks like an option: it starts with a hyphen, and is more than one. -/
def isOptionLike (argument : String) : Bool :=
  match argument.toList with
  | '-' :: _ :: _ => true
  | _ => false

def isLong (argument : String) : Bool :=
  ['-', '-'].isPrefixOf argument.toList

/-- Sorts the arguments of a command, up to one that asks for help. -/
def sortArguments (grammar : Grammar) (arguments : Arguments) : List String → Option Arguments
  | [] => some arguments
  | argument :: rest =>
    if argument = "--" then rest.foldlM (Arguments.addOperand grammar) arguments
    else if argument = "--help" then some { arguments with help := true }
    else if isLong argument then
      let (name, attached) := splitEquals argument
      if name ∈ grammar.values || name ∈ grammar.paths then
        match attached, rest with
        | some value, rest => do
          sortArguments grammar (← arguments.addOption grammar name value) rest
        | none, value :: rest =>
          if isOptionLike value then none
          else do sortArguments grammar (← arguments.addOption grammar name value) rest
        | none, [] => none
      else if name ∈ grammar.switches && attached.isNone then do
        sortArguments grammar (← arguments.addSwitch name) rest
      else none
    else if isOptionLike argument then do
      let arguments ← arguments.addLetters (argument.toList.drop 1)
      if arguments.help then return arguments else sortArguments grammar arguments rest
    else do
      sortArguments grammar (← arguments.addOperand grammar argument) rest

def flagGrammar : Grammar where
  values := ["--charset"]
  paths := ["--map", "--config", "--names", "--translit"]
  switches := ["--verbose", "--stop-on-error", "--ignore-default-map"]
  pathOperands := true

def Flags.ofArguments (arguments : Arguments) : Flags where
  charset := arguments.options.lookup "--charset"
  map := arguments.options.lookup "--map"
  stopOnError := "--stop-on-error" ∈ arguments.switches
  ignoreDefaultMap := "--ignore-default-map" ∈ arguments.switches
  config := arguments.options.lookup "--config"
  names := arguments.options.lookup "--names"
  translit := arguments.options.lookup "--translit"

/-- Sorts the arguments of a command, which has to have all its operands, and makes the command of
them. -/
def withArguments? (grammar : Grammar) (arguments : List String)
    (command : Arguments → Option Command) : Option Command := do
  let sorted ← sortArguments grammar {} arguments
  if sorted.help then return .help
  else if sorted.operands.length = grammar.operands then command sorted
  else none

def export? (kind : DocumentKind) (arguments : List String) : Option Command :=
  withArguments? {} arguments fun _ => some (.exportDefault kind)

def validate? (kind : DocumentKind) (arguments : List String) : Option Command :=
  withArguments? { operands := 1 } arguments fun sorted => sorted.operands.head?.map (.validate kind)

def commandNames : List String :=
  ["compile", "map", "names-export", "names-validate", "translit-export", "translit-validate",
    "settings-export", "settings-validate", "help"]

/-- Help about the program, or about the command of this name. -/
def help? : List String → Option Command
  | [] => some .help
  | [name] => if name ∈ commandNames then some .help else none
  | _ => none

def named? (name : String) (arguments : List String) : Option Command :=
  match name with
  | "compile" =>
    withArguments? { flagGrammar with operands := 2 } arguments fun sorted =>
      match sorted.operands with
      | [input, output] => some (.compile input output (.ofArguments sorted))
      | _ => none
  | "map" =>
    let grammar :=
      { flagGrammar with operands := 1, switches := "--json" :: flagGrammar.switches }
    withArguments? grammar arguments fun sorted =>
      match sorted.operands with
      | [input] => some (.map input ("--json" ∈ sorted.switches) (.ofArguments sorted))
      | _ => none
  | "names-export" => export? .names arguments
  | "names-validate" => validate? .names arguments
  | "translit-export" => export? .translit arguments
  | "translit-validate" => validate? .translit arguments
  | "settings-export" => export? .settings arguments
  | "settings-validate" => validate? .settings arguments
  | "help" => help? arguments
  | _ => none

/-- Reads letters behind a hyphen before the command's name: what they ask for, if they do, and
whether they, or what came before, are verbose. -/
def leadingLetters? (verbose : Bool) : List Char → Option (Option Command × Bool)
  | [] => some (none, verbose)
  | c :: letters =>
    if c = 'V' then some (some .version, verbose)
    else if c = 'h' then some (some .help, verbose)
    else if c = 'v' && !verbose then leadingLetters? true letters
    else none

/-- The command of a command line, or `none` if it is not understood. `verbose` says whether it has
been given before the command's name. -/
def command? (verbose : Bool) : List String → Option Command
  | [] => none
  | argument :: rest =>
    if argument = "--version" then some .version
    else if argument = "--help" then some .help
    else if argument = "--verbose" then if verbose then none else command? true rest
    else if isLong argument then none
    else if isOptionLike argument then
      match leadingLetters? verbose (argument.toList.drop 1) with
      | some (some command, _) => some command
      | some (none, verbose) => command? verbose rest
      | none => none
    else named? argument rest

def Command.parse? (arguments : List String) : Option Command :=
  command? false arguments

end Wordbridge.CommandLine
