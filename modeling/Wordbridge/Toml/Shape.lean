import Std.Data.TreeMap
import Wordbridge.Toml.Document

/-!
# Shapes of TOML items

Taking a document apart as the tables and settings need it: a table of
strings, or a record of named fields. A record may also be written as an array
of its fields in order. Keys that nobody asks for are ignored.
-/

namespace Wordbridge.Toml

def Fields.require (fields : Fields) (key : Text) : Except Error Item :=
  match fields.get? key with
  | some item => .ok item
  | none => .error (.missing key)

def Item.asString (key : Text) : Item → Except Error Text
  | .string text => .ok text
  | _ => .error (.mistyped key)

def Item.asBoolean (key : Text) : Item → Except Error Bool
  | .boolean value => .ok value
  | _ => .error (.mistyped key)

/-- The key under which a moment holds its text where a table is wanted. -/
def momentKey : Text :=
  "$__toml_private_datetime".toList

/-- The fields of a table under a key; a moment counts as a table of one field. -/
def Item.asFields (key : Text) : Item → Except Error Fields
  | .table _ fields | .inlineTable fields => .ok fields
  | .moment text => .ok [(momentKey, .string text)]
  | _ => .error (.mistyped key)

def Item.asStrings (key : Text) (item : Item) : Except Error (Std.TreeMap Text Text) := do
  let fields ← item.asFields key
  let strings ← fields.mapM fun (name, value) => return (name, ← value.asString name)
  return Std.TreeMap.ofList strings

/-- The fields of a record with these names, each of them if it is there. -/
def Item.asRecord (key : Text) (names : List Text) (item : Item) : Except Error (List (Option Item)) :=
  match item with
  | .array items => .ok (names.zipIdx.map fun (_, position) => items[position]?)
  | item => do
    let fields ← item.asFields key
    return names.map fields.get?

def optional {α : Type} (read : Item → Except Error α) : Option Item → Except Error (Option α)
  | some item => some <$> read item
  | none => .ok none

def required {α : Type} (key : Text) (read : Item → Except Error α) : Option Item → Except Error α
  | some item => read item
  | none => .error (.missing key)

end Wordbridge.Toml
