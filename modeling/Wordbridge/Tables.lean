import Wordbridge.Compilation
import Wordbridge.NameTable
import Wordbridge.Romanization.Document

/-!
# Tables in use

The name table and the unit table of a process. Each can be replaced once, by a
document that has to be valid. The first time a table is read, the document
that replaces it, or else the default, is put to use, and it stays in use: a
replacement that comes later is accepted, but has no effect any more.
-/

namespace Wordbridge

/-- A kind of table that is written as a document. -/
structure TableKind (ε α : Type) where
  parse : Text → Except ε α
  /-- The document in use when no other is installed. -/
  defaultText : Text
  default : α
  parse_defaultText : parse defaultText = .ok default
  /-- The answer to a valid document that comes after another. -/
  alreadyInstalled : ε

def NameTable.kind : TableKind NameTable.Error Lexicon where
  parse := parse
  defaultText := defaultText.toList
  default := default
  parse_defaultText := parse_defaultText
  alreadyInstalled := .alreadyInstalled

def UnitTable.kind : TableKind UnitTable.Error UnitTable where
  parse := parse
  defaultText := defaultText.toList
  default := default
  parse_defaultText := parse_defaultText
  alreadyInstalled := .alreadyInstalled

/-- A table that can be replaced once, before its first use. -/
structure SetOnce (α : Type) where
  /-- The document that replaces the default. -/
  custom : Option Text := none
  /-- What has been read. -/
  inUse : Option α := none
  deriving DecidableEq, Repr

namespace SetOnce

variable {ε α : Type}

/-- Replaces the default by a document, which has to be valid and the first to do so. -/
def install (kind : TableKind ε α) (slot : SetOnce α) (document : Text) :
    Except ε (SetOnce α) := do
  let _ ← kind.parse document
  match slot.custom with
  | none => return { slot with custom := some document }
  | some _ => .error kind.alreadyInstalled

/-- Reads the table. The first time, this puts it to use; the error is that of a document that is
put to use and is not valid. -/
def read (kind : TableKind ε α) (slot : SetOnce α) : Except ε (α × SetOnce α) :=
  match slot.inUse with
  | some table => .ok (table, slot)
  | none => do
    let table ← kind.parse (slot.custom.getD kind.defaultText)
    return (table, { slot with inUse := some table })

end SetOnce

structure Tables where
  names : SetOnce Lexicon := {}
  units : SetOnce UnitTable := {}

namespace Tables

def installNames (tables : Tables) (document : Text) : Except NameTable.Error Tables := do
  let names ← tables.names.install NameTable.kind document
  return { tables with names }

def installUnits (tables : Tables) (document : Text) : Except UnitTable.Error Tables := do
  let units ← tables.units.install UnitTable.kind document
  return { tables with units }

def readNames (tables : Tables) : Except NameTable.Error (Lexicon × Tables) := do
  let (lexicon, names) ← tables.names.read NameTable.kind
  return (lexicon, { tables with names })

def readUnits (tables : Tables) : Except UnitTable.Error (UnitTable × Tables) := do
  let (table, units) ← tables.units.read UnitTable.kind
  return (table, { tables with units })

/-- The directive of this name with the unit table, which is read even if there can be no such
directive. -/
def transliterator [RegexCompiler] (tables : Tables) (name : Text) :
    Except UnitTable.Error (Except InvalidDirective Transliterator × Tables) := do
  let (units, tables) ← tables.readUnits
  return (Transliterator.ofName name units, tables)

/-- Compiles a script with the unit table, which is read even if the script cannot be compiled. -/
def compile [RegexCompiler] (tables : Tables) (builtin : Lexicon) (options : Options)
    (map : Option MapFile) (direction : Direction) (source : Text) :
    Except UnitTable.Error (Except CompileError Compiled × Tables) := do
  let (units, tables) ← tables.readUnits
  return (Wordbridge.compile units builtin options map direction source, tables)

end Tables

end Wordbridge
