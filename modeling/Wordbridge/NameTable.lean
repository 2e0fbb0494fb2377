import Wordbridge.Lexicon
import Wordbridge.NameTable.Default
import Wordbridge.Toml.Shape

/-!
# Name tables

A name table is a lexicon that can be read both ways: no word and no
counterpart is empty, and no two words have one counterpart. It is written as
the table `names` of a document.
-/

namespace Wordbridge.NameTable

inductive Error where
  | unreadable (error : Toml.Error)
  | empty
  | emptyKey
  | emptyValue (key : Text)
  /-- Two words have one counterpart. -/
  | duplicateValue (value first second : Text)
  | alreadyInstalled
  deriving DecidableEq, Repr

def Error.message : Error → String
  | .unreadable error => error.message
  | .empty => "[names] table is empty"
  | .emptyKey => "empty dialect name"
  | .emptyValue key => s!"empty value for name: {key.toStr}"
  | .duplicateValue value first second =>
    s!"names {first.toStr} and {second.toStr} both map to {value.toStr}"
  | .alreadyInstalled => "name table already initialized"

/-- Checks words in order. The counterparts of the words before them are in `seen`, each with its
word. -/
def check (seen : List (Text × Text)) : List (Text × Text) → Except Error Unit
  | [] => .ok ()
  | (key, value) :: words =>
    if key = [] then .error .emptyKey
    else if value = [] then .error (.emptyValue key)
    else
      match seen.lookup value with
      | some first => .error (.duplicateValue value first key)
      | none => check ((value, key) :: seen) words

/-- The name table with these words, the longest first. The words are checked in the order of their
characters, and the first fault counts. -/
def ofStrings (words : Std.TreeMap Text Text) : Except Error Lexicon := do
  if words.isEmpty then .error .empty
  else
    check [] words.toList
    return (Lexicon.ofPairs words.toList).sort

def strings (document : Text) : Except Toml.Error (Std.TreeMap Text Text) := do
  let fields ← Toml.ofText document
  let names ← fields.require "names".toList
  names.asStrings "names".toList

def parse (document : Text) : Except Error Lexicon := do
  ofStrings (← (strings document).mapError .unreadable)

/-- The name table in use when no other is installed. -/
def default : Lexicon :=
  (parse defaultText.toList).toOption.getD .empty

theorem parse_defaultText : parse defaultText.toList = .ok default := by
  have h : (parse defaultText.toList).isOk = true := by
    -- The kernel takes long to cut a string into characters, so it is given the characters.
    rw [defaultText, String.toList_ofList]
    decide +kernel
  unfold default
  generalize parse defaultText.toList = result at h ⊢
  cases result with
  | error error => cases h
  | ok table => rfl

end Wordbridge.NameTable
