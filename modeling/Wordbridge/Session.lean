import Wordbridge.Tables

/-!
# Sessions

What a process does with its tables: a row of calls, each of which replaces a
table or uses one. `Tables.step` answers a call, and `Tables.run` a row of them.
-/

namespace Wordbridge

/-- A call on the tables of a process. -/
inductive Call where
  | installNames (document : Text)
  | installUnits (document : Text)
  | readNames
  | readUnits
  | transliterator (name : Text)
  /-- Compiles a script with this built-in lexicon and this map file. -/
  | compile (builtin : Lexicon) (options : Options) (map : Option MapFile) (direction : Direction)
    (source : Text)

inductive Reply where
  | installed
  | namesRefused (error : NameTable.Error)
  | unitsRefused (error : UnitTable.Error)
  | names (lexicon : Lexicon)
  | units (table : UnitTable)
  | transliterator (result : Except InvalidDirective Transliterator)
  | compiled (result : Except CompileError Compiled)
  /-- A document that is put to use is not valid, and the process ends. -/
  | crashed

namespace Tables

/-- The answer to an installation. One that fails leaves the tables as they are. -/
def afterInstall {ε : Type} (tables : Tables) (refused : ε → Reply) :
    Except ε Tables → Reply × Tables
  | .ok tables => (.installed, tables)
  | .error error => (refused error, tables)

def afterUse {ε β : Type} (tables : Tables) (answer : β → Reply) :
    Except ε (β × Tables) → Reply × Tables
  | .ok (result, tables) => (answer result, tables)
  | .error _ => (.crashed, tables)

def step [RegexCompiler] (tables : Tables) : Call → Reply × Tables
  | .installNames document => tables.afterInstall .namesRefused (tables.installNames document)
  | .installUnits document => tables.afterInstall .unitsRefused (tables.installUnits document)
  | .readNames => tables.afterUse .names tables.readNames
  | .readUnits => tables.afterUse .units tables.readUnits
  | .transliterator name => tables.afterUse .transliterator (tables.transliterator name)
  | .compile builtin options map direction source =>
    tables.afterUse .compiled (tables.compile builtin options map direction source)

def run [RegexCompiler] (tables : Tables) : List Call → List Reply × Tables
  | [] => ([], tables)
  | call :: calls =>
    let (reply, tables) := tables.step call
    let (replies, tables) := tables.run calls
    (reply :: replies, tables)

end Tables

end Wordbridge
