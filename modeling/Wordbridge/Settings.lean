import Wordbridge.Options
import Wordbridge.Settings.Default
import Wordbridge.Toml.Shape

/-!
# Settings

Settings are the defaults of the options, written as the tables `compile` and
`translit` of a document.
-/

namespace Wordbridge

structure Settings where
  /-- The name of the charset, as it is written. -/
  charsetName : Text
  charset : Charset
  stopOnError : Bool
  ignoreDefaultMap : Bool
  map : Option Text
  directive : Text
  deriving DecidableEq, Repr

namespace Settings

inductive Error where
  | unreadable (error : Toml.Error)
  | invalidValue (field reason : String)
  deriving DecidableEq, Repr

def Error.message : Error → String
  | .unreadable error => error.message
  | .invalidValue field reason => s!"invalid value for {field}: {reason}"

/-- The table `compile`, with the charset by name. -/
structure CompileTable where
  charset : Text
  stopOnError : Bool
  ignoreDefaultMap : Bool
  map : Option Text
  deriving DecidableEq, Repr

/-- Reads the table `compile`. Only the charset has to be there. -/
def CompileTable.ofItem (item : Toml.Item) : Except Toml.Error CompileTable := do
  let names := ["charset", "stop_on_error", "ignore_default_map", "map"].map String.toList
  let fields ← item.asRecord "compile".toList names
  let field (position : Nat) : Option Toml.Item := fields[position]?.join
  let name (position : Nat) : Text := names.getD position []
  return {
    charset := ← Toml.required (name 0) (·.asString (name 0)) (field 0)
    stopOnError := (← Toml.optional (·.asBoolean (name 1)) (field 1)).getD false
    ignoreDefaultMap := (← Toml.optional (·.asBoolean (name 2)) (field 2)).getD false
    map := ← Toml.optional (·.asString (name 3)) (field 3) }

def directiveOfItem (item : Toml.Item) : Except Toml.Error Text := do
  let name := "directive".toList
  let fields ← item.asRecord "translit".toList [name]
  Toml.required name (·.asString name) fields.head?.join

def tables (document : Text) : Except Toml.Error (CompileTable × Text) := do
  let fields ← Toml.ofText document
  let compile ← CompileTable.ofItem (← fields.require "compile".toList)
  let directive ← directiveOfItem (← fields.require "translit".toList)
  return (compile, directive)

/-- Checks the values of the tables: there has to be such a charset, and the directive has to be an
ASCII identifier. -/
def ofTables (compile : CompileTable) (directive : Text) : Except Error Settings :=
  match Charset.ofName compile.charset.toStr with
  | .error error => .error (.invalidValue "compile.charset" error.message)
  | .ok charset =>
    if Text.isIdentifier directive then
      .ok {
        charsetName := compile.charset
        charset := charset
        stopOnError := compile.stopOnError
        ignoreDefaultMap := compile.ignoreDefaultMap
        map := compile.map
        directive := directive }
    else .error (.invalidValue "translit.directive" "must be an ASCII identifier")

def parse (document : Text) : Except Error Settings := do
  let (compile, directive) ← (tables document).mapError .unreadable
  ofTables compile directive

def default : Settings where
  charsetName := "UTF-8".toList
  charset := .utf8
  stopOnError := false
  ignoreDefaultMap := false
  map := none
  directive := "translit".toList

/-- The default settings are those of the default document. -/
theorem parse_defaultText : parse defaultText.toList = .ok default := by
  have h : (parse defaultText.toList).toOption = some default := by
    rw [defaultText, String.toList_ofList]
    decide +kernel
  generalize parse defaultText.toList = result at h ⊢
  cases result with
  | error error => cases h
  | ok settings => exact congrArg Except.ok (Option.some.inj h)

def options (settings : Settings) : Options where
  map := settings.map.map Text.toStr
  charset := settings.charset
  ignoreBuiltin := settings.ignoreDefaultMap
  missingMap := if settings.stopOnError then .abort else .proceed
  directive := settings.directive

end Settings

end Wordbridge
