import Wordbridge.Charset.Utf8

/-!
# UTF-16

Texts as UTF-16 code units, and code units as pairs of bytes in either order.
A character beyond U+FFFF is two units, a high and a low surrogate; a
surrogate outside such a pair stands for no text.
-/

namespace Wordbridge.Utf16

/-- Which byte of a code unit comes first. -/
inductive ByteOrder where
  | lowFirst
  | highFirst
  deriving DecidableEq, Repr

def unitsOfChar (c : Char) : List Nat :=
  let n := c.toNat
  if n < 0x10000 then [n]
  else [0xD800 + (n - 0x10000) / 1024, 0xDC00 + (n - 0x10000) % 1024]

def units (text : Text) : List Nat :=
  text.flatMap unitsOfChar

/-- The text of the code units; `none` if a surrogate stands alone. -/
def ofUnits? : List Nat → Option Text
  | [] => some []
  | [u] => if u.isValidChar then some [Char.ofNat u] else none
  | u :: v :: rest =>
    if u.isValidChar then (ofUnits? (v :: rest)).map (Char.ofNat u :: ·)
    else if 0xD800 ≤ u ∧ u < 0xDC00 ∧ 0xDC00 ≤ v ∧ v < 0xE000 then
      (ofUnits? rest).map (Char.ofNat (0x10000 + (u - 0xD800) * 1024 + (v - 0xDC00)) :: ·)
    else none

def bytesOfUnit : ByteOrder → Nat → Bytes
  | .lowFirst, u => [(u % 256).toUInt8, (u / 256).toUInt8]
  | .highFirst, u => [(u / 256).toUInt8, (u % 256).toUInt8]

def unitOfBytes : ByteOrder → UInt8 → UInt8 → Nat
  | .lowFirst, a, b => a.toNat + 256 * b.toNat
  | .highFirst, a, b => 256 * a.toNat + b.toNat

/-- The code units of bytes taken in pairs; a byte left over is dropped. -/
def unitsOfBytes (order : ByteOrder) : Bytes → List Nat
  | a :: b :: rest => unitOfBytes order a b :: unitsOfBytes order rest
  | _ => []

def encode (order : ByteOrder) (text : Text) : Bytes :=
  (units text).flatMap (bytesOfUnit order)

/-- The text whose encoding the bytes, an even number of them, are. -/
def decode? (order : ByteOrder) (bytes : Bytes) : Option Text :=
  ofUnits? (unitsOfBytes order bytes)

end Wordbridge.Utf16
