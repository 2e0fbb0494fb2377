import Wordbridge.Lexicon
import Wordbridge.Text.DisplayWidth

/-!
# Lexicons as text

A lexicon as lines of words with arrows to their counterparts, aligned by
display width, or as a JSON array of objects.
-/

namespace Wordbridge.Report

/-- One line an entry, with the arrows below each other. -/
def aligned (lexicon : Lexicon) : String :=
  let width := lexicon.pairs.foldl (fun n (key, _) => max n (Text.displayWidth key)) 0
  String.join (lexicon.pairs.map fun (key, value) =>
    let gap := Text.toStr (List.replicate (width - Text.displayWidth key) ' ')
    s!"{key.toStr}{gap} → {value.toStr}\n")

def jsonChar (c : Char) : String :=
  if c = '"' then "\\\""
  else if c = '\\' then "\\\\"
  else if c = '\x08' then "\\b"
  else if c = '\x0c' then "\\f"
  else if c = '\n' then "\\n"
  else if c = '\r' then "\\r"
  else if c = '\t' then "\\t"
  else if c < ' ' then
    "\\u00" ++ String.ofList [Nat.digitChar (c.toNat / 16), Nat.digitChar (c.toNat % 16)]
  else String.singleton c

def jsonString (text : Text) : String :=
  "\"" ++ String.join (text.map jsonChar) ++ "\""

/-- An array of objects with a key and a value, indented by two blanks a level. -/
def json (lexicon : Lexicon) : String :=
  let object (key value : Text) : String :=
    "  \x7b\n    \"key\": " ++ jsonString key ++ ",\n    \"value\": " ++ jsonString value ++
      "\n  \x7d"
  if lexicon.pairs = [] then "[]"
  else "[\n" ++ String.intercalate ",\n" (lexicon.pairs.map fun (k, v) => object k v) ++ "\n]"

end Wordbridge.Report
