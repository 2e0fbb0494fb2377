import Wordbridge.Romanization
import Wordbridge.Romanization.Default
import Wordbridge.Toml.Shape

/-!
# Unit tables as documents

A unit table is written as the table `mappings` of a document. Its units are
not empty and in lower case, since they are looked for in texts in lower case;
their spellings are Latin letters.
-/

namespace Wordbridge.UnitTable

inductive Error where
  | unreadable (error : Toml.Error)
  | empty
  | emptyUnit
  | upperCaseUnit (unit : Text)
  | nonLatinValue (unit value : Text)
  | alreadyInstalled
  deriving DecidableEq, Repr

def Error.message : Error → String
  | .unreadable error => error.message
  | .empty => "[mappings] table is empty"
  | .emptyUnit => "empty unit"
  | .upperCaseUnit unit => s!"unit is not lower-case: {unit.toStr}"
  | .nonLatinValue unit value => s!"value for {unit.toStr} is not Latin letters: {value.toStr}"
  | .alreadyInstalled => "transliteration table already initialized"

def checkUnit (unit value : Text) : Except Error Unit :=
  if unit = [] then .error .emptyUnit
  else if Text.lower unit ≠ unit then .error (.upperCaseUnit unit)
  else if !Text.isLatin value then .error (.nonLatinValue unit value)
  else .ok ()

def check : List (Text × Text) → Except Error Unit
  | [] => .ok ()
  | (unit, value) :: units => do
    checkUnit unit value
    check units

/-- The table of these units, checked in the order of their characters; the first fault counts. -/
def ofStrings (units : Std.TreeMap Text Text) : Except Error UnitTable := do
  if units.isEmpty then .error .empty
  else
    check units.toList
    return ofUnits units

def strings (document : Text) : Except Toml.Error (Std.TreeMap Text Text) := do
  let fields ← Toml.ofText document
  let mappings ← fields.require "mappings".toList
  mappings.asStrings "mappings".toList

def parse (document : Text) : Except Error UnitTable := do
  ofStrings (← (strings document).mapError .unreadable)

/-- The unit table in use when no other is installed. -/
def default : UnitTable :=
  (parse defaultText.toList).toOption.getD (ofUnits ∅)

theorem parse_defaultText : parse defaultText.toList = .ok default := by
  have h : (parse defaultText.toList).isOk = true := by
    -- The kernel takes long to cut a string into characters, so it is given the characters.
    rw [defaultText, String.toList_ofList]
    decide +kernel
  unfold default
  generalize parse defaultText.toList = result at h ⊢
  cases result with
  | error error => cases h
  | ok table => rfl

end Wordbridge.UnitTable
