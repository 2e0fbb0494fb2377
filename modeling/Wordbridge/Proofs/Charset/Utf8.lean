import Mathlib.Order.Bounds.Basic
import Wordbridge.Charset.Utf8

/-!
# UTF-8 forward and back

`Spells` says how the number of a character is spread over its bytes. A
character has one spelling, which is its encoding, and it is decoded from that
and from nothing else, whatever follows: overlong forms, surrogates and numbers
beyond the last character spell nothing. The statements about texts follow by
induction over the characters:

* `decodeChar?_eq_some_iff`: the step;
* `decode_eq_ok_iff`: a text is decoded from its encoding and from nothing else;
* `decode_eq_error_iff`: the reported offset is the length of the longest
  prefix of the bytes that is the encoding of a text.
-/

namespace Wordbridge

/-! ## Bytes and characters by number -/

theorem toNat_toUInt8 {n : Nat} (h : n < 256) : n.toUInt8.toNat = n := by
  rw [Nat.toUInt8_eq, UInt8.toNat_ofNat', Nat.mod_eq_of_lt h]

theorem eq_toUInt8 {b : UInt8} {n : Nat} (h : b.toNat = n) : b = n.toUInt8 := by
  rw [← h, Nat.toUInt8_eq, UInt8.ofNat_toNat]

theorem toNat_ofNat_of_isValidChar {n : Nat} (h : n.isValidChar) : (Char.ofNat n).toNat = n := by
  have hc : Char.ofNat n = Char.ofNatAux n h := dif_pos h
  rw [hc]
  rfl

namespace Utf8

theorem tailBits?_eq_some_iff {b : UInt8} {x : Nat} :
    tailBits? b = some x ↔ x < 64 ∧ b.toNat = 0x80 + x := by
  unfold tailBits?
  split
  · rw [Option.some.injEq]
    omega
  · simp only [reduceCtorEq, false_iff]
    omega

theorem scalar?_eq_some_iff {least n : Nat} {c : Char} :
    scalar? least n = some c ↔ least ≤ n ∧ c.toNat = n := by
  unfold scalar?
  split
  · rename_i h
    rw [Option.some.injEq, ← Char.toNat_inj, toNat_ofNat_of_isValidChar h.2]
    exact ⟨fun hn => ⟨h.1, hn.symm⟩, fun hn => hn.2.symm⟩
  · rename_i h
    constructor
    · intro hn
      cases hn
    · rintro ⟨hle, rfl⟩
      exact absurd ⟨hle, c.valid⟩ h

/-! ## One character -/

/-- The bytes spell the number of the character in base 64, the first byte with the mark of their
count, each other byte with the mark `0x80`; and no fewer bytes could. -/
inductive Spells (c : Char) : Bytes → Prop
  | one {a : UInt8} (ha : a.toNat = c.toNat) (hc : c.toNat < 0x80) : Spells c [a]
  | two {a b : UInt8} {w x : Nat} (ha : a.toNat = 0xC0 + w) (hw : w < 32)
    (hb : b.toNat = 0x80 + x) (hx : x < 64) (hc : c.toNat = w * 64 + x) (least : 0x80 ≤ c.toNat) :
    Spells c [a, b]
  | three {a b b' : UInt8} {w x y : Nat} (ha : a.toNat = 0xE0 + w) (hw : w < 16)
    (hb : b.toNat = 0x80 + x) (hx : x < 64) (hb' : b'.toNat = 0x80 + y) (hy : y < 64)
    (hc : c.toNat = w * 4096 + x * 64 + y) (least : 0x800 ≤ c.toNat) : Spells c [a, b, b']
  | four {a b b' b'' : UInt8} {w x y z : Nat} (ha : a.toNat = 0xF0 + w) (hw : w < 8)
    (hb : b.toNat = 0x80 + x) (hx : x < 64) (hb' : b'.toNat = 0x80 + y) (hy : y < 64)
    (hb'' : b''.toNat = 0x80 + z) (hz : z < 64)
    (hc : c.toNat = w * 262144 + x * 4096 + y * 64 + z) (least : 0x10000 ≤ c.toNat) :
    Spells c [a, b, b', b'']

theorem spells_encodeChar (c : Char) : Spells c (encodeChar c) := by
  have hvalid : c.toNat < 0xD800 ∨ 0xDFFF < c.toNat ∧ c.toNat < 0x110000 := c.valid
  simp only [encodeChar]
  split
  · exact .one (toNat_toUInt8 (by omega)) (by omega)
  split
  · exact .two (toNat_toUInt8 (by omega)) (by omega) (toNat_toUInt8 (by omega)) (by omega)
      (by omega) (by omega)
  split
  · exact .three (toNat_toUInt8 (by omega)) (by omega) (toNat_toUInt8 (by omega)) (by omega)
      (toNat_toUInt8 (by omega)) (by omega) (by omega) (by omega)
  · exact .four (toNat_toUInt8 (by omega)) (by omega) (toNat_toUInt8 (by omega)) (by omega)
      (toNat_toUInt8 (by omega)) (by omega) (toNat_toUInt8 (by omega)) (by omega) (by omega)
      (by omega)

/-- A character has no other spelling than its encoding. -/
theorem Spells.eq_encodeChar {c : Char} {word : Bytes} (h : Spells c word) :
    word = encodeChar c := by
  simp only [encodeChar]
  cases h with
  | one ha hc => rw [if_pos hc, eq_toUInt8 ha]
  | @two a b w x ha hw hb hx hc least =>
    have h₁ : c.toNat / 64 = w := by omega
    have h₂ : c.toNat % 64 = x := by omega
    rw [if_neg (by omega), if_pos (by omega), h₁, h₂, eq_toUInt8 ha, eq_toUInt8 hb]
  | @three a b b' w x y ha hw hb hx hb' hy hc least =>
    have h₁ : c.toNat / 4096 = w := by omega
    have h₂ : c.toNat / 64 % 64 = x := by omega
    have h₃ : c.toNat % 64 = y := by omega
    rw [if_neg (by omega), if_neg (by omega), if_pos (by omega), h₁, h₂, h₃, eq_toUInt8 ha,
      eq_toUInt8 hb, eq_toUInt8 hb']
  | @four a b b' b'' w x y z ha hw hb hx hb' hy hb'' hz hc least =>
    have h₁ : c.toNat / 262144 = w := by omega
    have h₂ : c.toNat / 4096 % 64 = x := by omega
    have h₃ : c.toNat / 64 % 64 = y := by omega
    have h₄ : c.toNat % 64 = z := by omega
    rw [if_neg (by omega), if_neg (by omega), if_neg (by omega), h₁, h₂, h₃, h₄, eq_toUInt8 ha,
      eq_toUInt8 hb, eq_toUInt8 hb', eq_toUInt8 hb'']

/-- What spells a character is decoded to it, whatever follows. -/
theorem Spells.decodeChar?_append {c : Char} {word : Bytes} (h : Spells c word) (rest : Bytes) :
    decodeChar? (word ++ rest) = some (c, rest) := by
  have htail : ∀ {b : UInt8} {x : Nat}, b.toNat = 0x80 + x → x < 64 → tailBits? b = some x :=
    fun hb hx => tailBits?_eq_some_iff.2 ⟨hx, hb⟩
  have hscalar : ∀ {least n : Nat}, c.toNat = n → least ≤ c.toNat → scalar? least n = some c :=
    fun hn hle => scalar?_eq_some_iff.2 ⟨hn ▸ hle, hn⟩
  cases h with
  | one ha hc =>
    simp only [List.cons_append, List.nil_append, decodeChar?]
    rw [if_pos (by omega), ha, Char.ofNat_toNat]
  | two ha hw hb hx hc least =>
    simp only [List.cons_append, List.nil_append, decodeChar?]
    rw [if_neg (by omega), if_neg (by omega), if_pos (by omega), ha, Nat.add_sub_cancel_left]
    refine Option.bind_eq_some_iff.2 ⟨_, htail hb hx, ?_⟩
    exact Option.bind_eq_some_iff.2 ⟨c, hscalar hc least, rfl⟩
  | three ha hw hb hx hb' hy hc least =>
    simp only [List.cons_append, List.nil_append, decodeChar?]
    rw [if_neg (by omega), if_neg (by omega), if_neg (by omega), if_pos (by omega), ha,
      Nat.add_sub_cancel_left]
    refine Option.bind_eq_some_iff.2 ⟨_, htail hb hx, ?_⟩
    refine Option.bind_eq_some_iff.2 ⟨_, htail hb' hy, ?_⟩
    exact Option.bind_eq_some_iff.2 ⟨c, hscalar hc least, rfl⟩
  | four ha hw hb hx hb' hy hb'' hz hc least =>
    simp only [List.cons_append, List.nil_append, decodeChar?]
    rw [if_neg (by omega), if_neg (by omega), if_neg (by omega), if_neg (by omega),
      if_pos (by omega), ha, Nat.add_sub_cancel_left]
    refine Option.bind_eq_some_iff.2 ⟨_, htail hb hx, ?_⟩
    refine Option.bind_eq_some_iff.2 ⟨_, htail hb' hy, ?_⟩
    refine Option.bind_eq_some_iff.2 ⟨_, htail hb'' hz, ?_⟩
    exact Option.bind_eq_some_iff.2 ⟨c, hscalar hc least, rfl⟩

/-- Nothing else is decoded. -/
theorem exists_spells_of_decodeChar? {bytes rest : Bytes} {c : Char}
    (h : decodeChar? bytes = some (c, rest)) : ∃ word, Spells c word ∧ bytes = word ++ rest := by
  revert h
  fun_cases decodeChar? bytes <;>
    simp only [Option.bind_eq_bind, Option.bind_eq_some_iff, Option.pure_def, Option.some.injEq,
      Prod.mk.injEq, tailBits?_eq_some_iff, scalar?_eq_some_iff, reduceCtorEq, false_imp_iff]
  case case2 a bytes ha =>
    rintro ⟨rfl, rfl⟩
    have hn := toNat_ofNat_of_isValidChar (n := a.toNat) (.inl (by omega))
    exact ⟨[a], .one hn.symm (by omega), rfl⟩
  case case4 a ha₁ ha₂ ha₃ b bytes =>
    rintro ⟨x, ⟨hx, hb⟩, _, ⟨least, hc⟩, rfl, rfl⟩
    exact ⟨[a, b], .two (by omega) (by omega) hb hx hc (by omega), rfl⟩
  case case6 a ha₁ ha₂ ha₃ ha₄ b b' bytes =>
    rintro ⟨x, ⟨hx, hb⟩, y, ⟨hy, hb'⟩, _, ⟨least, hc⟩, rfl, rfl⟩
    exact ⟨[a, b, b'], .three (by omega) (by omega) hb hx hb' hy hc (by omega), rfl⟩
  case case8 a ha₁ ha₂ ha₃ ha₄ ha₅ b b' b'' bytes =>
    rintro ⟨x, ⟨hx, hb⟩, y, ⟨hy, hb'⟩, z, ⟨hz, hb''⟩, _, ⟨least, hc⟩, rfl, rfl⟩
    exact ⟨[a, b, b', b''], .four (by omega) (by omega) hb hx hb' hy hb'' hz hc (by omega), rfl⟩

/-- A character is decoded from its own bytes, and from no others. -/
theorem decodeChar?_eq_some_iff {bytes rest : Bytes} {c : Char} :
    decodeChar? bytes = some (c, rest) ↔ bytes = encodeChar c ++ rest := by
  constructor
  · intro h
    obtain ⟨word, hword, rfl⟩ := exists_spells_of_decodeChar? h
    rw [hword.eq_encodeChar]
  · rintro rfl
    exact (spells_encodeChar c).decodeChar?_append rest

theorem encodeChar_ne_nil (c : Char) : encodeChar c ≠ [] := by
  intro h
  have hs := spells_encodeChar c
  rw [h] at hs
  cases hs

theorem length_encodeChar (c : Char) : (encodeChar c).length = c.utf8Size := by
  have hle : ∀ {n : Nat} (h : n < UInt32.size), c.val ≤ UInt32.ofNatLT n h ↔ c.toNat ≤ n := by
    intro n h
    rw [UInt32.le_iff_toNat_le, UInt32.toNat_ofNatLT]
    rfl
  simp only [encodeChar, Char.utf8Size, hle]
  split
  · rw [if_pos (by omega)]
    rfl
  split
  · rw [if_neg (by omega), if_pos (by omega)]
    rfl
  split
  · rw [if_neg (by omega), if_neg (by omega), if_pos (by omega)]
    rfl
  · rw [if_neg (by omega), if_neg (by omega), if_neg (by omega)]
    rfl

/-! ## Texts -/

@[simp] theorem encode_nil : encode [] = [] := rfl

@[simp] theorem encode_cons (c : Char) (text : Text) :
    encode (c :: text) = encodeChar c ++ encode text :=
  List.flatMap_cons

theorem decodeAt_nil (offset : Nat) : decodeAt offset [] = .ok [] := by
  rw [decodeAt, if_pos rfl]

theorem decodeAt_encodeChar_append (offset : Nat) (c : Char) (rest : Bytes) :
    decodeAt offset (encodeChar c ++ rest) =
      (decodeAt (offset + (encodeChar c).length) rest).map (c :: ·) := by
  have hne : encodeChar c ++ rest ≠ [] := by simp [encodeChar_ne_nil]
  rw [decodeAt, if_neg hne]
  split
  · rename_i h
    rw [decodeChar?_eq_some_iff.2 rfl] at h
    cases h
  · rename_i h
    rw [decodeChar?_eq_some_iff.2 rfl] at h
    cases h
    rw [length_encodeChar]

/-- The characters at the start of the bytes are decoded first, and the rest by itself. -/
theorem decodeAt_encode_append (offset : Nat) (text : Text) (rest : Bytes) :
    decodeAt offset (encode text ++ rest) =
      (decodeAt (offset + (encode text).length) rest).map (text ++ ·) := by
  induction text generalizing offset with
  | nil =>
    rw [encode_nil, List.length_nil, Nat.add_zero, List.nil_append]
    cases decodeAt offset rest <;> rfl
  | cons c text ih =>
    rw [encode_cons, List.append_assoc, decodeAt_encodeChar_append, ih, List.length_append,
      Nat.add_assoc]
    cases decodeAt (offset + ((encodeChar c).length + (encode text).length)) rest <;> rfl

theorem decode_encode (text : Text) : decode (encode text) = .ok text := by
  have h := decodeAt_encode_append 0 text []
  rw [List.append_nil, decodeAt_nil] at h
  rw [decode, h]
  exact congrArg Except.ok (List.append_nil text)

/-- Bytes are the encoding of a text, up to where no character starts. -/
theorem exists_eq_encode_append (bytes : Bytes) :
    ∃ text rest, bytes = encode text ++ rest ∧ decodeChar? rest = none := by
  induction hn : bytes.length using Nat.strongRecOn generalizing bytes with
  | ind n ih =>
    match h : decodeChar? bytes with
    | none => exact ⟨[], bytes, rfl, h⟩
    | some (c, bytes') =>
      obtain ⟨text, rest, rfl, hrest⟩ := ih _ (hn ▸ length_lt_of_decodeChar? h) bytes' rfl
      refine ⟨c :: text, rest, ?_, hrest⟩
      rw [decodeChar?_eq_some_iff.1 h, encode_cons, List.append_assoc]

/-- Decoding stops at bytes that no character starts. -/
theorem decode_append_of_decodeChar?_eq_none (text : Text) {rest : Bytes} (hne : rest ≠ [])
    (h : decodeChar? rest = none) : decode (encode text ++ rest) = .error (encode text).length := by
  have hrest : ∀ offset, decodeAt offset rest = .error offset := by
    intro offset
    rw [decodeAt, if_neg hne]
    split
    · rfl
    · rename_i hs
      rw [h] at hs
      cases hs
  rw [decode, decodeAt_encode_append, hrest, Nat.zero_add]
  rfl

/-- What the bytes start with is decoded; the text at their start can only be cut shorter. -/
theorem isPrefix_of_encode_isPrefix {text text' : Text} {rest : Bytes}
    (hrest : decodeChar? rest = none) (h : encode text' <+: encode text ++ rest) :
    text' <+: text := by
  induction text' generalizing text with
  | nil => exact List.nil_prefix
  | cons c text' ih =>
    obtain ⟨tail, htail⟩ := h
    rw [encode_cons, List.append_assoc] at htail
    have hc := decodeChar?_eq_some_iff.2 htail.symm
    cases text with
    | nil =>
      rw [encode_nil, List.nil_append, hrest] at hc
      cases hc
    | cons d text =>
      rw [encode_cons, List.append_assoc, decodeChar?_eq_some_iff.2 rfl] at hc
      obtain ⟨hcd, hbytes⟩ := Prod.mk.inj (Option.some.inj hc)
      exact List.cons_prefix_cons.2 ⟨hcd.symm, ih ⟨tail, hbytes.symm⟩⟩

/-- The lengths of the prefixes of the bytes that are the encoding of a text. -/
def textLengths (bytes : Bytes) : Set Nat :=
  {n | ∃ text, encode text <+: bytes ∧ (encode text).length = n}

theorem isGreatest_textLengths {text : Text} {rest : Bytes} (h : decodeChar? rest = none) :
    IsGreatest (textLengths (encode text ++ rest)) (encode text).length := by
  refine ⟨⟨text, List.prefix_append _ _, rfl⟩, ?_⟩
  rintro n ⟨text', hp, rfl⟩
  obtain ⟨tail, rfl⟩ := isPrefix_of_encode_isPrefix h hp
  simp [encode]

/-- A text is decoded from its encoding, and from no other bytes. -/
theorem decode_eq_ok_iff {bytes : Bytes} {text : Text} :
    decode bytes = .ok text ↔ encode text = bytes := by
  obtain ⟨front, rest, rfl, hrest⟩ := exists_eq_encode_append bytes
  constructor
  · intro h
    by_cases hne : rest = []
    · rw [hne, List.append_nil, decode_encode, Except.ok.injEq] at h
      rw [hne, h, List.append_nil]
    · rw [decode_append_of_decodeChar?_eq_none front hne hrest] at h
      cases h
  · intro h
    rw [← h, decode_encode]

/-- Bytes are refused at the end of their longest prefix that is the encoding of a text, if there
are bytes behind it. -/
theorem decode_eq_error_iff {bytes : Bytes} {offset : Nat} :
    decode bytes = .error offset ↔
      IsGreatest (textLengths bytes) offset ∧ offset < bytes.length := by
  obtain ⟨front, rest, rfl, hrest⟩ := exists_eq_encode_append bytes
  have hgreatest : IsGreatest (textLengths (encode front ++ rest)) (encode front).length :=
    isGreatest_textLengths hrest
  by_cases hne : rest = []
  · subst hne
    rw [List.append_nil] at hgreatest ⊢
    rw [decode_encode]
    constructor
    · intro h
      cases h
    · rintro ⟨h, hlt⟩
      have := h.unique hgreatest
      omega
  · rw [decode_append_of_decodeChar?_eq_none front hne hrest, Except.error.injEq]
    constructor
    · rintro rfl
      have := List.length_pos_iff.2 hne
      exact ⟨hgreatest, by rw [List.length_append]; omega⟩
    · exact fun h => hgreatest.unique h.1

end Utf8

end Wordbridge
