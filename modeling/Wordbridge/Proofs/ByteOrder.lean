import Std.Data.TreeMap
import Wordbridge.Proofs.Charset.Utf8

/-!
# The order of bytes

Texts in the order of their characters are in the order of their bytes in UTF-8
(`Utf8.compare_eq_lt_iff`). So the entries of a table are visited in the order
of the bytes of their keys, and those visited before an entry are those with
keys before its own (`mem_front_iff`).
-/

namespace Wordbridge

namespace Utf8

/-- The bytes of characters are in the order of the characters, whatever follows: the more bytes
there are, the greater is the first, and of as many bytes the first ones hold the highest bits. -/
theorem encodeChar_append_lt {c d : Char} (h : c.toNat < d.toNat) (rest rest' : Bytes) :
    encodeChar c ++ rest < encodeChar d ++ rest' := by
  have hc := spells_encodeChar c
  have hd := spells_encodeChar d
  generalize encodeChar c = word at hc
  generalize encodeChar d = word' at hd
  cases hc <;> cases hd <;>
    simp only [List.cons_append, List.nil_append, List.cons_lt_cons_iff, UInt8.lt_iff_toNat_lt,
      ← UInt8.toNat_inj] <;>
    omega

theorem append_lt_append_iff {bytes rest rest' : Bytes} :
    bytes ++ rest < bytes ++ rest' ↔ rest < rest' := by
  induction bytes with
  | nil => rfl
  | cons b bytes ih =>
    rw [List.cons_append, List.cons_append, List.cons_lt_cons_iff, ih]
    simp

/-- A text comes before another one if its bytes do. -/
theorem compare_eq_lt_iff {text text' : Text} :
    compare text text' = .lt ↔ encode text < encode text' := by
  induction text generalizing text' with
  | nil =>
    cases text' with
    | nil => simp
    | cons d text' =>
      obtain ⟨b, bytes, hd⟩ := List.exists_cons_of_ne_nil (encodeChar_ne_nil d)
      rw [List.compare_nil_cons, encode_nil, encode_cons, hd]
      simp
  | cons c text ih =>
    cases text' with
    | nil => simp
    | cons d text' =>
      have hcompare : compare c d = .lt ↔ c.toNat < d.toNat := compareOfLessAndEq_eq_lt
      rw [List.compare_cons_cons, Ordering.then_eq_lt, hcompare, encode_cons, encode_cons]
      rcases Nat.lt_trichotomy c.toNat d.toNat with hlt | heq | hgt
      · exact ⟨fun _ => encodeChar_append_lt hlt _ _, fun _ => .inl hlt⟩
      · rw [Char.toNat_inj.1 heq, append_lt_append_iff, ← ih]
        simp
      · have hnot := List.lt_asymm (encodeChar_append_lt hgt (encode text') (encode text))
        refine ⟨fun hor => ?_, fun h => absurd h hnot⟩
        rcases hor with hlt | ⟨heq, -⟩
        · exact absurd hlt (Nat.lt_asymm hgt)
        · rw [Std.LawfulEqCmp.eq_of_compare heq] at hgt
          exact absurd hgt (Nat.lt_irrefl _)

end Utf8

/-! ## Tables -/

section Table

variable {table : Std.TreeMap Text Text}

theorem pairwise_encode_toList (table : Std.TreeMap Text Text) :
    table.toList.Pairwise fun a b => Utf8.encode a.1 < Utf8.encode b.1 :=
  Std.TreeMap.ordered_keys_toList.imp Utf8.compare_eq_lt_iff.1

/-- What is visited before the entry of a key is what has a key before it. -/
theorem mem_front_iff {front back : List (Text × Text)} {key value other content : Text}
    (h : table.toList = front ++ (key, value) :: back) :
    (other, content) ∈ front ↔
      table[other]? = some content ∧ Utf8.encode other < Utf8.encode key := by
  have horder := pairwise_encode_toList table
  rw [h, List.pairwise_append, List.pairwise_cons] at horder
  rw [← Std.TreeMap.mem_toList_iff_getElem?_eq_some, h, List.mem_append, List.mem_cons]
  constructor
  · exact fun hm => ⟨.inl hm, horder.2.2 _ hm _ (List.mem_cons_self ..)⟩
  · rintro ⟨hm | heq | hm, hlt⟩
    · exact hm
    · rw [(Prod.mk.inj heq).1] at hlt
      exact absurd hlt (List.lt_irrefl _)
    · exact absurd hlt (List.lt_asymm (horder.2.1.1 _ hm))

theorem nodup_map_fst_toList (table : Std.TreeMap Text Text) :
    (table.toList.map Prod.fst).Nodup := by
  rw [Std.TreeMap.map_fst_toList_eq_keys]
  exact Std.TreeMap.nodup_keys

end Table

end Wordbridge
