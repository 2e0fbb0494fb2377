import Wordbridge.Charset
import Wordbridge.Proofs.Charset.Utf16

/-!
# Charsets forward and back

In every charset, `decodeAll` gives back the text of which the bytes are the
encoding, and nothing else is decoded (`decodeAll_eq_ok_iff`). All else follows:

* `Holds`, `encode_eq_error_iff`: which texts have an encoding, and which
  character is named if one has not;
* `Fault`, `decodeAll_eq_error_iff`: what is wrong with bytes that are the
  encoding of no text, and where;
* `decode_eq_ok_iff`: what dropping the byte order mark does to it.
-/

namespace Wordbridge

/-- `x` is the first member of the list that `P` does not hold of, with `before` in front of it. -/
def IsFirstWithout {α : Type} (P : α → Prop) (l before : List α) (x : α) : Prop :=
  (∀ y ∈ before, P y) ∧ ¬ P x ∧ ∃ after, l = before ++ x :: after

theorem forall_or_exists_isFirstWithout {α : Type} (P : α → Prop) (l : List α) :
    (∀ x ∈ l, P x) ∨ ∃ before x, IsFirstWithout P l before x := by
  induction l with
  | nil => exact .inl fun x hx => absurd hx List.not_mem_nil
  | cons x l ih =>
    by_cases hx : P x
    · rcases ih with hall | ⟨before, y, hbefore, hy, after, rfl⟩
      · exact .inl (List.forall_mem_cons.2 ⟨hx, hall⟩)
      · exact .inr ⟨x :: before, y, List.forall_mem_cons.2 ⟨hx, hbefore⟩, hy, after, rfl⟩
    · exact .inr ⟨[], x, fun y hy => absurd hy List.not_mem_nil, hx, l, rfl⟩

namespace Charset

variable {charset : Charset} {bytes : Bytes} {text : Text}

/-! ## One byte a character -/

theorem encodeBytewise_of_forall {limit : Nat} (h : ∀ c ∈ text, c.toNat ≤ limit) :
    encodeBytewise charset limit text = .ok (text.map fun c => c.toNat.toUInt8) := by
  induction text with
  | nil => rfl
  | cons c text ih =>
    obtain ⟨hc, htext⟩ := List.forall_mem_cons.1 h
    rw [encodeBytewise, if_pos hc, ih htext]
    rfl

theorem encodeBytewise_of_isFirstWithout {limit : Nat} {before : Text} {c : Char}
    (h : IsFirstWithout (fun c => c.toNat ≤ limit) text before c) :
    encodeBytewise charset limit text = .error (.unmappable c charset) := by
  obtain ⟨hbefore, hc, after, rfl⟩ := h
  induction before with
  | nil => rw [List.nil_append, encodeBytewise, if_neg hc]
  | cons d before ih =>
    obtain ⟨hd, hbefore⟩ := List.forall_mem_cons.1 hbefore
    rw [List.cons_append, encodeBytewise, if_pos hd, ih hbefore]
    rfl

theorem decodeAscii_of_forall (offset : Nat) (h : ∀ b ∈ bytes, b.toNat ≤ 0x7F) :
    decodeAscii offset bytes = .ok (decodeBytewise bytes) := by
  induction bytes generalizing offset with
  | nil => rfl
  | cons b bytes ih =>
    obtain ⟨hb, hbytes⟩ := List.forall_mem_cons.1 h
    rw [decodeAscii, if_pos hb, ih _ hbytes]
    rfl

theorem decodeAscii_of_isFirstWithout (offset : Nat) {before : Bytes} {b : UInt8}
    (h : IsFirstWithout (fun b => b.toNat ≤ 0x7F) bytes before b) :
    decodeAscii offset bytes = .error (.nonAscii b (offset + before.length)) := by
  obtain ⟨hbefore, hb, after, rfl⟩ := h
  induction before generalizing offset with
  | nil =>
    rw [List.nil_append, decodeAscii, if_neg hb]
    rfl
  | cons a before ih =>
    obtain ⟨ha, hbefore⟩ := List.forall_mem_cons.1 hbefore
    rw [List.cons_append, decodeAscii, if_pos ha, ih _ hbefore, List.length_cons,
      Nat.add_right_comm, Nat.add_assoc]
    rfl

theorem toNat_ofNat_toNat (b : UInt8) : (Char.ofNat b.toNat).toNat = b.toNat := by
  have := b.toNat_lt
  exact toNat_ofNat_of_isValidChar (.inl (by omega))

theorem map_toUInt8_decodeBytewise (bytes : Bytes) :
    (decodeBytewise bytes).map (fun c => c.toNat.toUInt8) = bytes := by
  rw [decodeBytewise, List.map_map]
  refine (List.map_congr_left fun b _ => ?_).trans (List.map_id bytes)
  exact (eq_toUInt8 (toNat_ofNat_toNat b).symm).symm

theorem decodeBytewise_map_toUInt8 (h : ∀ c ∈ text, c.toNat ≤ 0xFF) :
    decodeBytewise (text.map fun c => c.toNat.toUInt8) = text := by
  rw [decodeBytewise, List.map_map]
  refine (List.map_congr_left fun c hc => ?_).trans (List.map_id text)
  have := h c hc
  rw [Function.comp_apply, toNat_toUInt8 (by omega), Char.ofNat_toNat, id]

/-- One byte a character and one character a byte are inverse to each other below the limit. -/
theorem encodeBytewise_eq_ok_iff {limit : Nat} (hlimit : limit ≤ 0xFF) :
    encodeBytewise charset limit text = .ok bytes ↔
      (∀ b ∈ bytes, b.toNat ≤ limit) ∧ decodeBytewise bytes = text := by
  constructor
  · intro h
    rcases forall_or_exists_isFirstWithout (fun c => c.toNat ≤ limit) text with
      hall | ⟨_, _, hfirst⟩
    · rw [encodeBytewise_of_forall hall] at h
      cases h
      refine ⟨fun b hb => ?_, decodeBytewise_map_toUInt8 fun c hc => (hall c hc).trans hlimit⟩
      obtain ⟨c, hc, rfl⟩ := List.mem_map.1 hb
      have := hall c hc
      rw [toNat_toUInt8 (by omega)]
      exact this
    · rw [encodeBytewise_of_isFirstWithout hfirst] at h
      cases h
  · rintro ⟨hbytes, rfl⟩
    rw [encodeBytewise_of_forall, map_toUInt8_decodeBytewise]
    intro c hc
    obtain ⟨b, hb, rfl⟩ := List.mem_map.1 hc
    rw [toNat_ofNat_toNat]
    exact hbytes b hb

/-! ## Which texts have an encoding -/

/-- The characters that a charset has bytes for. -/
def Holds : Charset → Char → Prop
  | .latin1, c => c.toNat ≤ 0xFF
  | .ascii, c => c.toNat ≤ 0x7F
  | _, _ => True

theorem exists_encode_eq_ok (h : ∀ c ∈ text, charset.Holds c) :
    ∃ bytes, charset.encode text = .ok bytes := by
  cases charset with
  | utf8 | utf16le | utf16be => exact ⟨_, rfl⟩
  | latin1 | ascii => exact ⟨_, encodeBytewise_of_forall h⟩

theorem encode_of_isFirstWithout {before : Text} {c : Char}
    (h : IsFirstWithout charset.Holds text before c) :
    charset.encode text = .error (.unmappable c charset) := by
  cases charset with
  | utf8 | utf16le | utf16be => exact absurd trivial h.2.1
  | latin1 | ascii => exact encodeBytewise_of_isFirstWithout h

theorem exists_encode_eq_ok_iff :
    (∃ bytes, charset.encode text = .ok bytes) ↔ ∀ c ∈ text, charset.Holds c := by
  refine ⟨fun ⟨bytes, h⟩ => ?_, exists_encode_eq_ok⟩
  refine (forall_or_exists_isFirstWithout charset.Holds text).resolve_right fun ⟨_, _, hfirst⟩ => ?_
  rw [encode_of_isFirstWithout hfirst] at h
  cases h

/-- The first character that the charset does not hold is named. -/
theorem encode_eq_error_iff {error : CharsetError} :
    charset.encode text = .error error ↔
      ∃ before c, IsFirstWithout charset.Holds text before c ∧ error = .unmappable c charset := by
  constructor
  · intro h
    rcases forall_or_exists_isFirstWithout charset.Holds text with hall | ⟨before, c, hfirst⟩
    · obtain ⟨bytes, hbytes⟩ := exists_encode_eq_ok hall
      rw [hbytes] at h
      cases h
    · rw [encode_of_isFirstWithout hfirst, Except.error.injEq] at h
      exact ⟨before, c, hfirst, h.symm⟩
  · rintro ⟨before, c, hfirst, rfl⟩
    exact encode_of_isFirstWithout hfirst

/-! ## Which bytes are an encoding -/

theorem decodeUtf16_eq_ok_iff {order : Utf16.ByteOrder} :
    decodeUtf16 order bytes = .ok text ↔ Utf16.encode order text = bytes := by
  unfold decodeUtf16
  by_cases heven : bytes.length % 2 = 0
  · rw [if_neg (not_not_intro heven), ← Utf16.decode?_eq_some_iff heven]
    cases Utf16.decode? order bytes with
    | none => simp
    | some text' => simp
  · rw [if_pos heven]
    constructor
    · intro h
      cases h
    · rintro rfl
      exact absurd (Utf16.length_encode_mod_two order text) heven

theorem decodeUtf16_eq_error_iff {order : Utf16.ByteOrder} {error : CharsetError} :
    decodeUtf16 order bytes = .error error ↔
      bytes.length % 2 = 1 ∧ error = .oddLength bytes.length ∨
        bytes.length % 2 = 0 ∧ Utf16.HasLoneSurrogate (Utf16.unitsOfBytes order bytes) ∧
          error = .invalidUtf16 := by
  unfold decodeUtf16
  by_cases heven : bytes.length % 2 = 0
  · have hnone : Utf16.decode? order bytes = none ↔
        Utf16.HasLoneSurrogate (Utf16.unitsOfBytes order bytes) :=
      Utf16.ofUnits?_eq_none_iff fun u hu => Utf16.lt_of_mem_unitsOfBytes hu
    rw [if_neg (not_not_intro heven), ← hnone]
    cases Utf16.decode? order bytes with
    | none => simp [heven, eq_comm]
    | some text => simp [heven]
  · have hodd : bytes.length % 2 = 1 := by omega
    rw [if_pos heven]
    simp [hodd, eq_comm]

theorem decodeAscii_eq_ok_iff :
    decodeAscii 0 bytes = .ok text ↔
      (∀ b ∈ bytes, b.toNat ≤ 0x7F) ∧ decodeBytewise bytes = text := by
  rcases forall_or_exists_isFirstWithout (fun b : UInt8 => b.toNat ≤ 0x7F) bytes with
    hall | ⟨before, b, hfirst⟩
  · rw [decodeAscii_of_forall 0 hall, Except.ok.injEq]
    exact ⟨fun h => ⟨hall, h⟩, fun h => h.2⟩
  · rw [decodeAscii_of_isFirstWithout 0 hfirst]
    obtain ⟨-, hb, after, rfl⟩ := hfirst
    refine ⟨fun h => ?_, fun h => absurd (h.1 b (by simp)) hb⟩
    cases h

/-- The text is decoded of which the bytes are the encoding, and no other. -/
theorem decodeAll_eq_ok_iff :
    charset.decodeAll bytes = .ok text ↔ charset.encode text = .ok bytes := by
  cases charset with
  | utf8 =>
    simp only [decodeAll, encode, Except.ok.injEq, ← Utf8.decode_eq_ok_iff]
    cases Utf8.decode bytes with
    | error offset => simp [Except.mapError]
    | ok text' => simp [Except.mapError]
  | utf16le | utf16be =>
    simp only [decodeAll, encode, Except.ok.injEq]
    exact decodeUtf16_eq_ok_iff
  | latin1 =>
    simp only [decodeAll, encode, Except.ok.injEq]
    rw [encodeBytewise_eq_ok_iff (Nat.le_refl _)]
    exact ⟨fun h => ⟨fun b _ => Nat.le_of_lt_succ b.toNat_lt, h⟩, fun h => h.2⟩
  | ascii =>
    simp only [decodeAll, encode]
    rw [encodeBytewise_eq_ok_iff (by omega), decodeAscii_eq_ok_iff]

/-- The order of the bytes of a code unit, in a charset that has code units. -/
def byteOrder? : Charset → Option Utf16.ByteOrder
  | .utf16le => some .lowFirst
  | .utf16be => some .highFirst
  | _ => none

/-- What is wrong with bytes that are the encoding of no text in a charset. All bytes are an
encoding in ISO-8859-1. -/
inductive Fault : Charset → Bytes → CharsetError → Prop
  /-- A text ends at `offset`, none goes further, and there are more bytes. -/
  | invalidUtf8 {bytes : Bytes} {offset : Nat}
    (longest : IsGreatest (Utf8.textLengths bytes) offset) (inside : offset < bytes.length) :
    Fault .utf8 bytes (.invalidUtf8 offset)
  | oddLength {charset : Charset} {order : Utf16.ByteOrder} {bytes : Bytes}
    (utf16 : charset.byteOrder? = some order) (odd : bytes.length % 2 = 1) :
    Fault charset bytes (.oddLength bytes.length)
  | invalidUtf16 {charset : Charset} {order : Utf16.ByteOrder} {bytes : Bytes}
    (utf16 : charset.byteOrder? = some order) (even : bytes.length % 2 = 0)
    (lone : Utf16.HasLoneSurrogate (Utf16.unitsOfBytes order bytes)) :
    Fault charset bytes .invalidUtf16
  | nonAscii {bytes before : Bytes} {byte : UInt8}
    (first : IsFirstWithout (fun b : UInt8 => b.toNat ≤ 0x7F) bytes before byte) :
    Fault .ascii bytes (.nonAscii byte before.length)

/-- One character a byte: nothing can be wrong. -/
theorem not_fault_latin1 {error : CharsetError} : ¬ Fault .latin1 bytes error := by
  intro h
  cases h with
  | oddLength horder | invalidUtf16 horder => cases horder

theorem fault_iff_decodeUtf16 {order : Utf16.ByteOrder} {error : CharsetError}
    (h : charset.byteOrder? = some order) :
    Fault charset bytes error ↔ decodeUtf16 order bytes = .error error := by
  rw [decodeUtf16_eq_error_iff]
  constructor
  · intro hf
    cases hf with
    | invalidUtf8 | nonAscii => cases h
    | oddLength _ odd => exact .inl ⟨odd, rfl⟩
    | invalidUtf16 horder even lone =>
      rw [h] at horder
      cases horder
      exact .inr ⟨even, lone, rfl⟩
  · rintro (⟨odd, rfl⟩ | ⟨even, lone, rfl⟩)
    · exact .oddLength h odd
    · exact .invalidUtf16 h even lone

/-- Bytes that are the encoding of no text are refused for what is wrong with them. -/
theorem decodeAll_eq_error_iff {error : CharsetError} :
    charset.decodeAll bytes = .error error ↔ Fault charset bytes error := by
  cases charset with
  | utf8 =>
    simp only [decodeAll]
    constructor
    · intro h
      cases hd : Utf8.decode bytes with
      | error offset =>
        rw [hd] at h
        cases h
        obtain ⟨longest, inside⟩ := Utf8.decode_eq_error_iff.1 hd
        exact .invalidUtf8 longest inside
      | ok text =>
        rw [hd] at h
        cases h
    · intro h
      cases h with
      | invalidUtf8 longest inside =>
        rw [Utf8.decode_eq_error_iff.2 ⟨longest, inside⟩]
        rfl
      | oddLength horder | invalidUtf16 horder => cases horder
  | utf16le | utf16be => exact (fault_iff_decodeUtf16 rfl).symm
  | latin1 =>
    refine ⟨fun h => ?_, fun h => absurd h not_fault_latin1⟩
    cases h
  | ascii =>
    simp only [decodeAll]
    constructor
    · intro h
      rcases forall_or_exists_isFirstWithout (fun b : UInt8 => b.toNat ≤ 0x7F) bytes with
        hall | ⟨before, b, hfirst⟩
      · rw [decodeAscii_of_forall 0 hall] at h
        cases h
      · rw [decodeAscii_of_isFirstWithout 0 hfirst, Nat.zero_add] at h
        cases h
        exact .nonAscii hfirst
    · intro h
      cases h with
      | nonAscii first => rw [decodeAscii_of_isFirstWithout 0 first, Nat.zero_add]
      | oddLength horder | invalidUtf16 horder => cases horder

/-! ## The byte order mark -/

theorem dropMark_eq_iff {text rest : Text} :
    text.dropMark = rest ↔
      text = '\uFEFF' :: rest ∨ text = rest ∧ rest.head? ≠ some '\uFEFF' := by
  cases text with
  | nil =>
    simp only [Text.dropMark]
    constructor
    · rintro rfl
      exact .inr ⟨rfl, by simp⟩
    · rintro (h | ⟨rfl, -⟩)
      · cases h
      · rfl
  | cons c text =>
    by_cases hc : c = '\uFEFF'
    · rw [Text.dropMark, Text.byteOrderMark, if_pos hc, hc]
      constructor
      · rintro rfl
        exact .inl rfl
      · rintro (h | ⟨rfl, h⟩)
        · exact (List.cons.inj h).2
        · exact absurd rfl h
    · rw [Text.dropMark, Text.byteOrderMark, if_neg hc]
      constructor
      · rintro rfl
        exact .inr ⟨rfl, by simpa using hc⟩
      · rintro (h | ⟨rfl, -⟩)
        · exact absurd (List.cons.inj h).1 hc
        · rfl

theorem decode_eq_ok_iff :
    charset.decode bytes = .ok text ↔
      charset.encode ('\uFEFF' :: text) = .ok bytes ∨
        charset.encode text = .ok bytes ∧ text.head? ≠ some '\uFEFF' := by
  have hmap : charset.decode bytes = .ok text ↔
      ∃ all, charset.decodeAll bytes = .ok all ∧ Text.dropMark all = text := by
    rw [decode]
    cases charset.decodeAll bytes <;> simp [Except.map]
  simp only [hmap, decodeAll_eq_ok_iff, dropMark_eq_iff]
  constructor
  · rintro ⟨all, hall, rfl | ⟨rfl, hmark⟩⟩
    · exact .inl hall
    · exact .inr ⟨hall, hmark⟩
  · rintro (h | ⟨h, hmark⟩)
    · exact ⟨_, h, .inl rfl⟩
    · exact ⟨_, h, .inr ⟨rfl, hmark⟩⟩

theorem decode_eq_error_iff {error : CharsetError} :
    charset.decode bytes = .error error ↔ Fault charset bytes error := by
  rw [decode, ← decodeAll_eq_error_iff]
  cases charset.decodeAll bytes <;> simp [Except.map]

/-- Decoding undoes encoding, but for a byte order mark at the start of the text. The texts of the
characters that a charset holds have an encoding; in any other text the first character that the
charset does not hold is named. -/
theorem decode_of_encode_eq_ok (charset : Charset) (text : Text) :
    (∀ bytes, charset.encode text = .ok bytes →
      (∀ rest, text = '\uFEFF' :: rest → charset.decode bytes = .ok rest) ∧
        (text.head? ≠ some '\uFEFF' → charset.decode bytes = .ok text)) ∧
      ((∃ bytes, charset.encode text = .ok bytes) ↔ ∀ c ∈ text, charset.Holds c) ∧
      ∀ error, charset.encode text = .error error ↔
        ∃ before c, IsFirstWithout charset.Holds text before c ∧
          error = .unmappable c charset := by
  refine ⟨fun bytes h => ⟨?_, fun hmark => ?_⟩, exists_encode_eq_ok_iff,
    fun error => encode_eq_error_iff⟩
  · rintro rest rfl
    exact decode_eq_ok_iff.2 (.inl h)
  · exact decode_eq_ok_iff.2 (.inr ⟨h, hmark⟩)

/-- A byte order mark, and a character of two code units. -/
theorem decode_of_encode_of_surrogates :
    utf16be.encode "\uFEFF🐢".toList = .ok [0xFE, 0xFF, 0xD8, 0x3D, 0xDC, 0x22] ∧
      utf16be.decode [0xFE, 0xFF, 0xD8, 0x3D, 0xDC, 0x22] = .ok "🐢".toList := by
  have hencode : utf16be.encode "\uFEFF🐢".toList = .ok [0xFE, 0xFF, 0xD8, 0x3D, 0xDC, 0x22] := by
    decide +kernel
  have h := decode_of_encode_eq_ok utf16be "\uFEFF🐢".toList
  exact ⟨hencode, (h.1 _ hencode).1 _ (by decide)⟩

/-- Exactly the encodings of texts are decoded, to the text without one byte order mark at its
start. Other bytes are refused for what is wrong with them. -/
theorem decode_eq_ok_iff_and_eq_error_iff (charset : Charset) (bytes : Bytes) :
    ((∃ text, charset.decode bytes = .ok text) ↔ ∃ text, charset.encode text = .ok bytes) ∧
      (∀ text, charset.decode bytes = .ok text ↔
        charset.encode ('\uFEFF' :: text) = .ok bytes ∨
          charset.encode text = .ok bytes ∧ text.head? ≠ some '\uFEFF') ∧
      ∀ error, charset.decode bytes = .error error ↔ Fault charset bytes error := by
  refine ⟨?_, fun text => decode_eq_ok_iff, fun error => decode_eq_error_iff⟩
  constructor
  · rintro ⟨text, h⟩
    rcases decode_eq_ok_iff.1 h with h | ⟨h, -⟩
    · exact ⟨_, h⟩
    · exact ⟨_, h⟩
  · rintro ⟨text, h⟩
    rw [← decodeAll_eq_ok_iff] at h
    exact ⟨text.dropMark, by rw [decode, h]; rfl⟩

-- A surrogate in three bytes, and one without the second of its pair.
example :
    utf8.decode [0x61, 0xED, 0xA0, 0x80] = .error (.invalidUtf8 1) ∧
      utf16le.decode [0x61, 0x00, 0x3D, 0xD8] = .error .invalidUtf16 := by
  decide +kernel

end Charset

end Wordbridge
