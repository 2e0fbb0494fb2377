import Wordbridge.Text.Blank
import Wordbridge.Text.Quoted
import Wordbridge.Charset.Utf16

/-!
# Charsets

The encodings of source, output and map files. `Charset.encode` gives the
bytes of a text, and `Charset.decode` the text of bytes, less one byte order
mark at its start. Each fails with a `CharsetError` that says where.
-/

namespace Wordbridge

/-- An encoding of texts as bytes. -/
inductive Charset where
  | utf8
  | utf16le
  | utf16be
  | latin1
  | ascii
  deriving DecidableEq, Repr

namespace Charset

def label : Charset → String
  | .utf8 => "UTF-8"
  | .utf16le => "UTF-16LE"
  | .utf16be => "UTF-16BE"
  | .latin1 => "ISO-8859-1"
  | .ascii => "US-ASCII"

end Charset

inductive CharsetError where
  | unknown (name : String)
  /-- The bytes before `offset` are UTF-8, and no text goes on behind them as the bytes do. -/
  | invalidUtf8 (offset : Nat)
  | invalidUtf16
  /-- Code units of two bytes cannot make up `length` bytes. -/
  | oddLength (length : Nat)
  | nonAscii (byte : UInt8) (offset : Nat)
  | unmappable (c : Char) (charset : Charset)
  deriving DecidableEq, Repr

def hexByte (byte : UInt8) : String :=
  String.ofList [(Nat.digitChar (byte.toNat / 16)).toUpper, (Nat.digitChar (byte.toNat % 16)).toUpper]

def CharsetError.message : CharsetError → String
  | .unknown name => s!"unknown charset: {name}"
  | .invalidUtf8 offset => s!"invalid UTF-8 at byte {offset}"
  | .invalidUtf16 => "invalid UTF-16 data"
  | .oddLength length => s!"UTF-16 input has an odd number of bytes ({length})"
  | .nonAscii byte offset => s!"non-ASCII byte 0x{hexByte byte} at offset {offset}"
  | .unmappable c charset =>
    let character := Text.quoted '\'' [c]
    s!"character {character} cannot be encoded as {charset.label}"

namespace Charset

/-- The charset of a name; blanks around it and the case of ASCII letters do not count. -/
def ofName (name : String) : Except CharsetError Charset :=
  match Text.toStr ((Text.trim name.toList).map Char.toLower) with
  | "utf-8" | "utf8" => .ok .utf8
  | "utf-16le" | "utf16le" => .ok .utf16le
  | "utf-16be" | "utf16be" => .ok .utf16be
  | "iso-8859-1" | "iso8859-1" | "latin1" | "latin-1" => .ok .latin1
  | "us-ascii" | "ascii" => .ok .ascii
  | _ => .error (.unknown name)

/-- One byte a character; the first character beyond `limit` is an error. -/
def encodeBytewise (charset : Charset) (limit : Nat) : Text → Except CharsetError Bytes
  | [] => .ok []
  | c :: text =>
    if c.toNat ≤ limit then (encodeBytewise charset limit text).map (c.toNat.toUInt8 :: ·)
    else .error (.unmappable c charset)

def encode (charset : Charset) (text : Text) : Except CharsetError Bytes :=
  match charset with
  | .utf8 => .ok (Utf8.encode text)
  | .utf16le => .ok (Utf16.encode .lowFirst text)
  | .utf16be => .ok (Utf16.encode .highFirst text)
  | .latin1 => encodeBytewise .latin1 0xFF text
  | .ascii => encodeBytewise .ascii 0x7F text

/-- UTF-16 in the given byte order; the length is looked at first. -/
def decodeUtf16 (order : Utf16.ByteOrder) (bytes : Bytes) : Except CharsetError Text :=
  if bytes.length % 2 ≠ 0 then .error (.oddLength bytes.length)
  else
    match Utf16.decode? order bytes with
    | some text => .ok text
    | none => .error .invalidUtf16

def decodeBytewise (bytes : Bytes) : Text :=
  bytes.map fun b => Char.ofNat b.toNat

/-- One character a byte below 0x80; `offset` is that of the first of the bytes. -/
def decodeAscii (offset : Nat) : Bytes → Except CharsetError Text
  | [] => .ok []
  | b :: bytes =>
    if b.toNat ≤ 0x7F then (decodeAscii (offset + 1) bytes).map (Char.ofNat b.toNat :: ·)
    else .error (.nonAscii b offset)

def decodeAll (charset : Charset) (bytes : Bytes) : Except CharsetError Text :=
  match charset with
  | .utf8 => (Utf8.decode bytes).mapError .invalidUtf8
  | .utf16le => decodeUtf16 .lowFirst bytes
  | .utf16be => decodeUtf16 .highFirst bytes
  | .latin1 => .ok (decodeBytewise bytes)
  | .ascii => decodeAscii 0 bytes

/-- The text of a file's bytes, without one byte order mark at its start. -/
def decode (charset : Charset) (bytes : Bytes) : Except CharsetError Text :=
  (decodeAll charset bytes).map Text.dropMark

end Charset

end Wordbridge
