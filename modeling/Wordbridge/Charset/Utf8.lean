import Wordbridge.Text

/-!
# UTF-8

The UTF-8 encoding of texts, and its decoding from lists of bytes.
`Utf8.decode` accepts exactly the encodings of texts; on other bytes it gives
the length of the longest prefix that is one.
-/

namespace Wordbridge

/-- The content of a file. -/
abbrev Bytes := List UInt8

namespace Utf8

/-- The bytes of one character: one below U+0080, two below U+0800, three below U+10000, else
four. The first byte holds the length and the highest bits, each other byte six bits. -/
def encodeChar (c : Char) : Bytes :=
  let n := c.toNat
  if n < 0x80 then [n.toUInt8]
  else if n < 0x800 then [(0xC0 + n / 64).toUInt8, (0x80 + n % 64).toUInt8]
  else if n < 0x10000 then
    [(0xE0 + n / 4096).toUInt8, (0x80 + n / 64 % 64).toUInt8, (0x80 + n % 64).toUInt8]
  else
    [(0xF0 + n / 262144).toUInt8, (0x80 + n / 4096 % 64).toUInt8, (0x80 + n / 64 % 64).toUInt8,
      (0x80 + n % 64).toUInt8]

def encode (text : Text) : Bytes :=
  text.flatMap encodeChar

/-- The six bits that a byte behind the first one holds. -/
def tailBits? (b : UInt8) : Option Nat :=
  if 0x80 ≤ b.toNat ∧ b.toNat < 0xC0 then some (b.toNat - 0x80) else none

/-- The character numbered `n`, if it needs as many bytes as it was given: `n` is at least the
least number for that many bytes, and is a character. -/
def scalar? (least n : Nat) : Option Char :=
  if least ≤ n ∧ n.isValidChar then some (Char.ofNat n) else none

/-- The character that the bytes start with, and the bytes behind it. -/
def decodeChar? : Bytes → Option (Char × Bytes)
  | [] => none
  | a :: rest =>
    if a.toNat < 0x80 then some (Char.ofNat a.toNat, rest)
    else if a.toNat < 0xC0 then none
    else if a.toNat < 0xE0 then
      match rest with
      | b :: rest => do
        let x ← tailBits? b
        let c ← scalar? 0x80 ((a.toNat - 0xC0) * 64 + x)
        return (c, rest)
      | _ => none
    else if a.toNat < 0xF0 then
      match rest with
      | b :: b' :: rest => do
        let x ← tailBits? b
        let y ← tailBits? b'
        let c ← scalar? 0x800 ((a.toNat - 0xE0) * 4096 + x * 64 + y)
        return (c, rest)
      | _ => none
    else if a.toNat < 0xF8 then
      match rest with
      | b :: b' :: b'' :: rest => do
        let x ← tailBits? b
        let y ← tailBits? b'
        let z ← tailBits? b''
        let c ← scalar? 0x10000 ((a.toNat - 0xF0) * 262144 + x * 4096 + y * 64 + z)
        return (c, rest)
      | _ => none
    else none

theorem length_lt_of_decodeChar? {bytes rest : Bytes} {c : Char}
    (h : decodeChar? bytes = some (c, rest)) : rest.length < bytes.length := by
  unfold decodeChar? at h
  repeat' split at h
  all_goals
    simp [Option.bind_eq_some_iff] at h <;> grind

/-- The text whose encoding the bytes are, or the offset at which the first character starts that
cannot be decoded; `offset` is that of the first of the bytes. -/
def decodeAt (offset : Nat) (bytes : Bytes) : Except Nat Text :=
  if bytes = [] then .ok []
  else
    match _h : decodeChar? bytes with
    | none => .error offset
    | some (c, rest) => (decodeAt (offset + c.utf8Size) rest).map (c :: ·)
  termination_by bytes.length
  decreasing_by exact length_lt_of_decodeChar? _h

/-- The text whose encoding the bytes are, or the length of the longest prefix of the bytes that
is the encoding of a text. -/
def decode (bytes : Bytes) : Except Nat Text :=
  decodeAt 0 bytes

end Utf8

end Wordbridge
