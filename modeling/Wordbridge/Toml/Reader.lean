import Wordbridge.Toml.Item
import Wordbridge.Toml.Number

/-!
# Reading TOML

Readers take a text and give what it starts with and what follows, or `none`
if it does not start so. The grammar is that of TOML 1.0. Readers of repeated
parts have a fuel argument, for which the length of the text is enough, since
each part takes at least one character.
-/

namespace Wordbridge.Toml

/-- Reads something off the front of a text. -/
abbrev Reader (α : Type) := Text → Option (α × Text)

/-- The characters that may stand in a line of a string or a comment: no controls but the tab. -/
def isPlain (c : Char) : Bool :=
  c = '\t' || (' ' ≤ c && c ≠ '\x7f')

def isBlankChar (c : Char) : Bool :=
  c = ' ' || c = '\t'

def skipBlanks (text : Text) : Text :=
  text.dropWhile isBlankChar

def lineBreak? : Text → Option Text
  | '\n' :: text => some text
  | '\r' :: '\n' :: text => some text
  | _ => none

/-- What follows the rest of a line on which only a comment may stand. -/
def lineEnd? (text : Text) : Option Text :=
  let text := skipBlanks text
  let text :=
    match text with
    | '#' :: comment => comment.dropWhile isPlain
    | text => text
  if text = [] then some [] else lineBreak? text

def skipBreaks (inComment : Bool) : Text → Option Text
  | [] => some []
  | '\n' :: text => skipBreaks false text
  | '\r' :: '\n' :: text => skipBreaks false text
  | c :: text =>
    if inComment then if isPlain c then skipBreaks true text else none
    else if isBlankChar c then skipBreaks false text
    else if c = '#' then skipBreaks true text
    else some (c :: text)

/-! ## Strings -/

/-- The character of a number written with `count` hexadecimal digits. -/
def hexChar? (count : Nat) : Reader Char := fun text =>
  let digits := text.take count
  let n := numeral 16 digits
  if digits.length = count && digits.all isHexDigit && n.isValidChar
  then some (Char.ofNat n, text.drop count)
  else none

def escape? : Reader Char
  | 'b' :: text => some ('\x08', text)
  | 't' :: text => some ('\t', text)
  | 'n' :: text => some ('\n', text)
  | 'f' :: text => some ('\x0c', text)
  | 'r' :: text => some ('\r', text)
  | '"' :: text => some ('"', text)
  | '\\' :: text => some ('\\', text)
  | 'u' :: text => hexChar? 4 text
  | 'U' :: text => hexChar? 8 text
  | _ => none

def lineString? (mark : Char) (escapes : Bool) : Nat → Reader Text
  | 0, _ => none
  | _, [] => none
  | fuel + 1, c :: text =>
    if c = mark then some ([], text)
    else if escapes && c = '\\' then do
      let (e, text) ← escape? text
      let (string, text) ← lineString? mark escapes fuel text
      return (e :: string, text)
    else if isPlain c then do
      let (string, text) ← lineString? mark escapes fuel text
      return (c :: string, text)
    else none

def skipFolded : Text → Text
  | [] => []
  | '\r' :: '\n' :: text => skipFolded text
  | c :: text => if isBlankChar c || c = '\n' then skipFolded text else c :: text

/-- What follows a backslash at the end of a line: the line break and all blanks and line breaks
behind it are left out. -/
def foldedLine? (text : Text) : Option Text :=
  (lineBreak? (skipBlanks text)).map skipFolded

/-- The rest of a string of several lines between triple `mark`s. One or two marks are part of the
string, also right before the three that end it. -/
def blockString? (mark : Char) (escapes : Bool) : Nat → Reader Text
  | 0, _ => none
  | fuel + 1, text =>
    let marks := (text.takeWhile (· = mark)).take 5
    if 3 ≤ marks.length then some (marks.drop 3, text.drop marks.length)
    else
      match text with
      | [] => none
      | '\n' :: text => do
        let (string, text) ← blockString? mark escapes fuel text
        return ('\n' :: string, text)
      | '\r' :: '\n' :: text => do
        let (string, text) ← blockString? mark escapes fuel text
        return ('\n' :: string, text)
      | c :: text =>
        if escapes && c = '\\' then
          match foldedLine? text with
          | some rest => blockString? mark escapes fuel rest
          | none => do
            let (e, text) ← escape? text
            let (string, text) ← blockString? mark escapes fuel text
            return (e :: string, text)
        else if isPlain c then do
          let (string, text) ← blockString? mark escapes fuel text
          return (c :: string, text)
        else none

def dropBreak (text : Text) : Text :=
  (lineBreak? text).getD text

def string? : Reader Text
  | '"' :: '"' :: '"' :: text => blockString? '"' true text.length (dropBreak text)
  | '\'' :: '\'' :: '\'' :: text => blockString? '\'' false text.length (dropBreak text)
  | '"' :: text => lineString? '"' true text.length text
  | '\'' :: text => lineString? '\'' false text.length text
  | _ => none

/-! ## Keys -/

def isBareKeyChar (c : Char) : Bool :=
  c.isAlphanum || c = '_' || c = '-'

/-- One part of a key: quoted on one line, or bare. -/
def keyPart? (text : Text) : Option (Text × Text) :=
  match text with
  | '"' :: text => lineString? '"' true text.length text
  | '\'' :: text => lineString? '\'' false text.length text
  | text =>
    let part := text.takeWhile isBareKeyChar
    if part = [] then none else some (part, text.drop part.length)

def keyParts? : Nat → Reader (List Text)
  | 0, _ => none
  | fuel + 1, text => do
    let (part, text) ← keyPart? (skipBlanks text)
    match skipBlanks text with
    | '.' :: text => do
      let (parts, text) ← keyParts? fuel text
      return (part :: parts, text)
    | text => return ([part], text)

/-- How deep tables and arrays may be nested: less than this. -/
def nestingLimit : Nat := 80

/-- A dotted key: the path to a table, and the key in it. -/
def key? : Reader (List Text × Text) := fun text => do
  let (parts, text) ← keyParts? text.length text
  let key ← parts.getLast?
  if parts.length < nestingLimit then return ((parts.dropLast, key), text) else none

/-! ## Values -/

def isScalarChar (c : Char) : Bool :=
  c.isAlphanum || c = '_' || c = '+' || c = '-' || c = '.' || c = ':'

/-- The text of a value that is neither a string nor nested. A blank is part of it only between a
date and a time. -/
def scalarText (text : Text) : Text × Text :=
  let token := text.takeWhile isScalarChar
  let rest := text.drop token.length
  match date? token, rest with
  | some (_, []), ' ' :: d :: behind =>
    if d.isDigit then
      let time := (d :: behind).takeWhile isScalarChar
      (token ++ ' ' :: time, (d :: behind).drop time.length)
    else (token, rest)
  | _, _ => (token, rest)

def scalar? (text : Text) : Option Item :=
  if text = "true".toList then some (.boolean true)
  else if text = "false".toList then some (.boolean false)
  else
    match moment? text with
    | some moment => some (.moment moment)
    | none =>
      if isFloat text then some (.float text) else (integer? text).map .integer

def leaf? : Reader Item := fun text =>
  match text with
  | '"' :: _ | '\'' :: _ => (string? text).map fun (string, text) => (.string string, text)
  | text => do
    let (token, rest) := scalarText text
    let item ← scalar? token
    return (item, rest)

def arrayItems? (item? : Reader Item) : Nat → Reader (List Item)
  | 0, _ => none
  | fuel + 1, text => do
    match ← skipBreaks false text with
    | ']' :: text => return ([], text)
    | text =>
      let (item, text) ← item? text
      match ← skipBreaks false text with
      | ']' :: text => return ([item], text)
      | ',' :: text =>
        let (items, text) ← arrayItems? item? fuel text
        return (item :: items, text)
      | _ => none

def keyValue? (item? : Reader Item) : Reader ((List Text × Text) × Item) := fun text => do
  let (key, text) ← key? text
  match text with
  | '=' :: text =>
    let (item, text) ← item? (skipBlanks text)
    return ((key, item), skipBlanks text)
  | _ => none

def inlineFields? (item? : Reader Item) : Nat → Fields → Reader Fields
  | 0, _, _ => none
  | fuel + 1, fields, text => do
    let (((path, key), item), text) ← keyValue? item? text
    let fields ← (insertKey path key item fields).toOption
    match text with
    | '}' :: text => return (fields, text)
    | ',' :: text => inlineFields? item? fuel fields text
    | _ => none

/-- A value in which arrays and inline tables are nested at most `depth` deep. -/
def value? : Nat → Reader Item
  | 0, text => leaf? text
  | depth + 1, text =>
    match text with
    | '[' :: text => do
      let (items, text) ← arrayItems? (value? depth) text.length text
      return (.array items, text)
    | '{' :: text =>
      match skipBlanks text with
      | '}' :: text => some (.inlineTable [], text)
      | text => do
        let (fields, text) ← inlineFields? (value? depth) text.length [] text
        return (.inlineTable fields, text)
    | text => leaf? text

end Wordbridge.Toml
