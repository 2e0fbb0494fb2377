import Wordbridge.Toml.Reader

/-!
# TOML documents

A document is a list of statements, one a line: keys with their values, and
headers that open tables. `Toml.ofText` reads a text as a document and gives
the fields of its root table.
-/

namespace Wordbridge.Toml

inductive Statement where
  | keyValue (path : List Text) (key : Text) (item : Item)
  /-- A header `[path.key]`. -/
  | tableHeader (path : List Text) (key : Text)
  /-- A header `[[path.key]]`. -/
  | elementHeader (path : List Text) (key : Text)

/-- The statement that the text starts with, and what follows its line. -/
def statement? (text : Text) : Option (Statement × Text) :=
  match text with
  | '[' :: '[' :: text => do
    let ((path, key), text) ← key? text
    let text ← Text.after? [']', ']'] text
    return (.elementHeader path key, ← lineEnd? text)
  | '[' :: text => do
    let ((path, key), text) ← key? text
    let text ← Text.after? [']'] text
    return (.tableHeader path key, ← lineEnd? text)
  | text => do
    let (((path, key), item), text) ← keyValue? (value? (nestingLimit - 1)) text
    return (.keyValue path key item, ← lineEnd? text)

/-- The number of line breaks by which a text is longer than its end. -/
def breaksBetween (text rest : Text) : Nat :=
  text.count '\n' - rest.count '\n'

/-- The statements of a text whose first line has this number. -/
def statements (line : Nat) : Nat → Text → Except Error (List Statement)
  | 0, _ => .error (.malformed line)
  | fuel + 1, text =>
    let text := skipBlanks text
    if text = [] then .ok []
    else
      match lineEnd? text with
      | some rest => statements (line + breaksBetween text rest) fuel rest
      | none =>
        match statement? text with
        | none => .error (.malformed line)
        | some (statement, rest) => do
          let others ← statements (line + breaksBetween text rest) fuel rest
          return statement :: others

/-- A document while it is read: its root table so far, and the path of the table that the last
header opened. -/
structure Draft where
  root : Fields := []
  opened : List Text := []

def Draft.add (draft : Draft) : Statement → Except Error Draft
  | .keyValue path key item => do
    let root ← changeAt (insertKey path key item) draft.opened draft.root
    return { draft with root }
  | .tableHeader path key => do
    let root ← openTable path key draft.root
    return ⟨root, path ++ [key]⟩
  | .elementHeader path key => do
    let root ← openElement path key draft.root
    return ⟨root, path ++ [key]⟩

def ofText (text : Text) : Except Error Fields := do
  let text := Text.dropMark text
  let lines ← statements 1 (text.length + 1) text
  let draft ← lines.foldlM Draft.add {}
  return draft.root

end Wordbridge.Toml
