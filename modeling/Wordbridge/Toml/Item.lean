import Wordbridge.Text

/-!
# TOML items

What a TOML document is made of: values, tables and arrays of tables, and the
rules by which keys and headers define them. A key or a table may be defined
once only:

* `Toml.insertKey`: a key, possibly dotted, in a table;
* `Toml.openTable`: a header `[a.b]`;
* `Toml.openElement`: a header `[[a.b]]`.
-/

namespace Wordbridge.Toml

/-- How a table came to be. -/
inductive TableKind where
  | header
  /-- By the header of a table inside it; its own header may follow. -/
  | implied
  | dotted
  deriving DecidableEq, Repr

inductive Item where
  | string (text : Text)
  | integer (value : Int)
  /-- A float, as it is written. -/
  | float (text : Text)
  | boolean (value : Bool)
  /-- A date, a time or both. -/
  | moment (text : Text)
  | array (items : List Item)
  /-- A table written as a value, to which nothing can be added. -/
  | inlineTable (fields : List (Text × Item))
  | table (kind : TableKind) (fields : List (Text × Item))
  /-- An array of tables, to which headers add elements. -/
  | tables (elements : List (List (Text × Item)))

abbrev Fields := List (Text × Item)

inductive Error where
  /-- The statement that starts on this line cannot be read. -/
  | malformed (line : Nat)
  /-- A key or a table is defined twice, or in a place that is none. -/
  | redefined (key : Text)
  | missing (key : Text)
  | mistyped (key : Text)
  deriving DecidableEq, Repr

def Error.message (error : Error) : String :=
  "TOML parse error: " ++
    match error with
    | .malformed line => s!"malformed statement on line {line}"
    | .redefined key => s!"cannot define {key.toStr} here"
    | .missing key => s!"missing field {key.toStr}"
    | .mistyped key => s!"wrong type of {key.toStr}"

namespace Fields

def get? (fields : Fields) (key : Text) : Option Item :=
  fields.lookup key

def replace (fields : Fields) (key : Text) (item : Item) : Fields :=
  fields.map fun (k, old) => if k = key then (k, item) else (k, old)

end Fields

def changeLast (change : Fields → Except Error Fields) (elements : List Fields) :
    Except Error (List Fields) := do
  let last ← change (elements.getLast?.getD [])
  return elements.dropLast ++ [last]

/-- Defines `key` in the table that the dotted path leads to. A dotted key makes the tables on its
path, and adds only to tables that dotted keys made; it can pass through, but not end in, a table
that a header implied or the last table of an array. -/
def insertKey : List Text → Text → Item → Fields → Except Error Fields
  | [], key, item, fields =>
    match fields.get? key with
    | some _ => .error (.redefined key)
    | none => .ok (fields ++ [(key, item)])
  | part :: path, key, item, fields =>
    match fields.get? part with
    | none => do
      let inner ← insertKey path key item []
      return fields ++ [(part, .table .dotted inner)]
    | some (.table .dotted inner) => do
      let inner ← insertKey path key item inner
      return fields.replace part (.table .dotted inner)
    | some (.table .implied inner) =>
      if path = [] then .error (.redefined key)
      else do
        let inner ← insertKey path key item inner
        return fields.replace part (.table .implied inner)
    | some (.tables elements) =>
      if path = [] then .error (.redefined key)
      else do
        let elements ← changeLast (insertKey path key item) elements
        return fields.replace part (.tables elements)
    | some _ => .error (.redefined part)

/-- Changes the table that a header's path leads to. Tables on the path that are not there yet are
implied; in an array of tables the last one is meant. -/
def changeAt (change : Fields → Except Error Fields) : List Text → Fields → Except Error Fields
  | [], fields => change fields
  | part :: path, fields =>
    match fields.get? part with
    | none => do
      let inner ← changeAt change path []
      return fields ++ [(part, .table .implied inner)]
    | some (.table kind inner) => do
      let inner ← changeAt change path inner
      return fields.replace part (.table kind inner)
    | some (.tables elements) => do
      let elements ← changeLast (changeAt change path) elements
      return fields.replace part (.tables elements)
    | some _ => .error (.redefined part)

/-- Defines the table `key`: it is new, or was implied so far. -/
def defineTable (key : Text) (fields : Fields) : Except Error Fields :=
  match fields.get? key with
  | none => .ok (fields ++ [(key, .table .header [])])
  | some (.table .implied inner) => .ok (fields.replace key (.table .header inner))
  | some _ => .error (.redefined key)

/-- Adds an empty table to the array of tables `key`, which may be new. -/
def addElement (key : Text) (fields : Fields) : Except Error Fields :=
  match fields.get? key with
  | none => .ok (fields ++ [(key, .tables [[]])])
  | some (.tables elements) => .ok (fields.replace key (.tables (elements ++ [[]])))
  | some _ => .error (.redefined key)

def openTable (path : List Text) (key : Text) (document : Fields) : Except Error Fields :=
  changeAt (defineTable key) path document

def openElement (path : List Text) (key : Text) (document : Fields) : Except Error Fields :=
  changeAt (addElement key) path document

end Wordbridge.Toml
