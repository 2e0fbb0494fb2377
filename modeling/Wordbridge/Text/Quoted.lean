import Wordbridge.Text.Printable

/-!
# Quoted texts

A text between quotation marks, as messages show it. The mark itself, the
backslash and a few controls are written with a backslash, and a character
without a glyph of its own by its number, `\u{301}`.
-/

namespace Wordbridge.Text

/-- A character as it is written between two marks `mark`. -/
def quoteChar (mark c : Char) : String :=
  if c = '\x00' then "\\0"
  else if c = '\t' then "\\t"
  else if c = '\n' then "\\n"
  else if c = '\r' then "\\r"
  else if c = '\\' || c = mark then String.ofList ['\\', c]
  else if isPrintable c then String.singleton c
  else "\\u\x7b" ++ String.ofList (Nat.toDigits 16 c.toNat) ++ "\x7d"

def quoted (mark : Char) (text : Text) : String :=
  String.singleton mark ++ String.join (text.map (quoteChar mark)) ++ String.singleton mark

end Wordbridge.Text
