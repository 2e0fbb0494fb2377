import Wordbridge.Charset.Utf16
import Wordbridge.Proofs.Charset.Utf8

/-!
# UTF-16 forward and back

Bytes in pairs are code units below `0x10000`, in either byte order, and code
units make up a text exactly if no surrogate stands alone among them:

* `unitsOfBytes_flatMap`, `flatMap_unitsOfBytes`: units and their bytes;
* `ofUnits?_eq_some_iff`: a text is read from its own code units only;
* `ofUnits?_eq_none_iff`: where there is none, a surrogate stands alone;
* `decode?_eq_some_iff`: the same in bytes.
-/

namespace Wordbridge.Utf16

/-! ## Surrogates -/

/-- The first unit of a pair. -/
def IsHigh (u : Nat) : Prop :=
  0xD800 ≤ u ∧ u < 0xDC00

/-- The second unit of a pair. -/
def IsLow (u : Nat) : Prop :=
  0xDC00 ≤ u ∧ u < 0xE000

/-- A surrogate stands alone: the first unit of a pair without the second right behind it, or the
second without the first right before it. -/
def HasLoneSurrogate (us : List Nat) : Prop :=
  ∃ before u after, us = before ++ u :: after ∧
    (IsHigh u ∧ (∀ v, after.head? = some v → ¬ IsLow v) ∨
      IsLow u ∧ ∀ v, before.getLast? = some v → ¬ IsHigh v)

theorem not_hasLoneSurrogate_nil : ¬ HasLoneSurrogate [] := by
  rintro ⟨before, u, after, h, -⟩
  simp at h

theorem not_hasLoneSurrogate_singleton {u : Nat} (h : u.isValidChar) : ¬ HasLoneSurrogate [u] := by
  rintro ⟨before, v, after, hus, hv⟩
  have hmem : v ∈ [u] := by simp [hus]
  obtain rfl := List.mem_singleton.1 hmem
  simp only [IsHigh, IsLow, Nat.isValidChar] at h hv
  omega

theorem not_hasLoneSurrogate_pair {u v : Nat} (hu : IsHigh u) (hv : IsLow v) :
    ¬ HasLoneSurrogate [u, v] := by
  rintro ⟨before, w, after, hus, hw⟩
  have hdisjoint : ∀ {n}, IsHigh n → ¬ IsLow n := by
    simp only [IsHigh, IsLow]
    omega
  match before, hus with
  | [], hus =>
    obtain ⟨rfl, rfl⟩ := List.cons.inj hus
    exact (hw.resolve_right fun h => hdisjoint hu h.1).2 v rfl hv
  | [x], hus =>
    obtain ⟨rfl, rfl, -⟩ : u = x ∧ v = w ∧ [] = after := by simpa using hus
    exact (hw.resolve_left fun h => hdisjoint h.1 hv).2 u rfl hu
  | x :: y :: before, hus => simp at hus

/-- Units among which no surrogate stands alone leave the units behind them as they are. -/
theorem hasLoneSurrogate_append_iff {front rest : List Nat} (hfront : ¬ HasLoneSurrogate front) :
    HasLoneSurrogate (front ++ rest) ↔ HasLoneSurrogate rest := by
  constructor
  · rintro ⟨before, u, after, h, hu⟩
    rcases List.append_eq_append_iff.1 h with ⟨before, rfl, rfl⟩ | ⟨middle, rfl, hmiddle⟩
    · refine ⟨before, u, after, rfl, hu.imp_right fun ⟨hlow, hbefore⟩ => ⟨hlow, fun v hv => ?_⟩⟩
      exact hbefore v (by rw [List.getLast?_append, hv, Option.some_or])
    · cases middle with
      | nil =>
        refine ⟨[], u, after, hmiddle.symm, hu.imp_right fun ⟨hlow, _⟩ => ⟨hlow, fun v hv => ?_⟩⟩
        cases hv
      | cons w middle =>
        rw [List.cons_append] at hmiddle
        obtain ⟨rfl, rfl⟩ := List.cons.inj hmiddle
        refine absurd ⟨before, u, middle, rfl, hu.imp_left fun ⟨hhigh, hafter⟩ =>
          ⟨hhigh, fun v hv => ?_⟩⟩ hfront
        exact hafter v (by rw [List.head?_append, hv, Option.some_or])
  · rintro ⟨before, u, after, rfl, hu⟩
    refine ⟨front ++ before, u, after, (List.append_assoc ..).symm,
      hu.imp_right fun ⟨hlow, hbefore⟩ => ⟨hlow, fun v hv hhigh => ?_⟩⟩
    rw [List.getLast?_append, Option.or_eq_some_iff] at hv
    rcases hv with hv | ⟨-, hv⟩
    · exact hbefore v hv hhigh
    · obtain ⟨front', rfl⟩ := List.getLast?_eq_some_iff.1 hv
      exact hfront ⟨front', v, [], rfl, .inl ⟨hhigh, by simp⟩⟩

theorem hasLoneSurrogate_cons {u : Nat} {us : List Nat} (h : ¬ u.isValidChar) (hu : u < 0x10000)
    (hnext : ∀ v, us.head? = some v → ¬ (IsHigh u ∧ IsLow v)) : HasLoneSurrogate (u :: us) := by
  have hcases : IsHigh u ∨ IsLow u := by
    simp only [IsHigh, IsLow, Nat.isValidChar] at h ⊢
    omega
  refine ⟨[], u, us, rfl, hcases.imp (fun hhigh => ⟨hhigh, fun v hv hlow => ?_⟩)
    fun hlow => ⟨hlow, fun v hv => ?_⟩⟩
  · exact hnext v hv ⟨hhigh, hlow⟩
  · cases hv

/-- Code units are those of no text exactly if a surrogate stands alone among them. -/
theorem ofUnits?_eq_none_iff {us : List Nat} (h : ∀ u ∈ us, u < 0x10000) :
    ofUnits? us = none ↔ HasLoneSurrogate us := by
  fun_induction ofUnits? us with
  | case1 => simp [not_hasLoneSurrogate_nil]
  | case2 u hu => simp [not_hasLoneSurrogate_singleton hu]
  | case3 u hu =>
    have hlone : HasLoneSurrogate [u] :=
      hasLoneSurrogate_cons hu (h u (List.mem_singleton_self u)) (by simp)
    simp [hlone]
  | case4 u v rest hu ih =>
    rw [Option.map_eq_none_iff, ih fun w hw => h w (List.mem_cons_of_mem _ hw)]
    exact (hasLoneSurrogate_append_iff (not_hasLoneSurrogate_singleton hu)).symm
  | case5 u v rest hu hpair ih =>
    have hfront := not_hasLoneSurrogate_pair ⟨hpair.1, hpair.2.1⟩ hpair.2.2
    rw [Option.map_eq_none_iff,
      ih fun w hw => h w (List.mem_cons_of_mem _ (List.mem_cons_of_mem _ hw))]
    exact (hasLoneSurrogate_append_iff hfront).symm
  | case6 u v rest hu hpair =>
    have hlone : HasLoneSurrogate (u :: v :: rest) := by
      refine hasLoneSurrogate_cons hu (h u (List.mem_cons_self ..)) ?_
      rintro w hw ⟨hhigh, hlow⟩
      cases hw
      exact hpair ⟨hhigh.1, hhigh.2, hlow⟩
    simp [hlone]

/-! ## The units of a text -/

@[simp] theorem units_nil : units [] = [] := rfl

@[simp] theorem units_cons (c : Char) (text : Text) :
    units (c :: text) = unitsOfChar c ++ units text :=
  List.flatMap_cons

theorem ofUnits?_cons {u : Nat} (h : u.isValidChar) (us : List Nat) :
    ofUnits? (u :: us) = (ofUnits? us).map (Char.ofNat u :: ·) := by
  cases us with
  | nil =>
    show (if u.isValidChar then some [Char.ofNat u] else none) = some [Char.ofNat u]
    rw [if_pos h]
  | cons v us => rw [ofUnits?, if_pos h]

theorem ofUnits?_pair {u v : Nat} (hu : IsHigh u) (hv : IsLow v) (us : List Nat) :
    ofUnits? (u :: v :: us) =
      (ofUnits? us).map (Char.ofNat (0x10000 + (u - 0xD800) * 1024 + (v - 0xDC00)) :: ·) := by
  have hsurrogate : ¬ u.isValidChar := by
    simp only [IsHigh, Nat.isValidChar] at hu ⊢
    omega
  rw [ofUnits?, if_neg hsurrogate, if_pos ⟨hu.1, hu.2, hv⟩]

theorem unitsOfChar_ofNat {u : Nat} (h : u.isValidChar) (hlt : u < 0x10000) :
    unitsOfChar (Char.ofNat u) = [u] := by
  simp only [unitsOfChar, toNat_ofNat_of_isValidChar h]
  rw [if_pos hlt]

theorem unitsOfChar_ofNat_pair {u v : Nat} (hu : IsHigh u) (hv : IsLow v) :
    unitsOfChar (Char.ofNat (0x10000 + (u - 0xD800) * 1024 + (v - 0xDC00))) = [u, v] := by
  simp only [IsHigh, IsLow] at hu hv
  have hvalid : (0x10000 + (u - 0xD800) * 1024 + (v - 0xDC00)).isValidChar := .inr (by omega)
  have h₁ : 0xD800 + (0x10000 + (u - 0xD800) * 1024 + (v - 0xDC00) - 0x10000) / 1024 = u := by omega
  have h₂ : 0xDC00 + (0x10000 + (u - 0xD800) * 1024 + (v - 0xDC00) - 0x10000) % 1024 = v := by omega
  simp only [unitsOfChar, toNat_ofNat_of_isValidChar hvalid]
  rw [if_neg (by omega), h₁, h₂]

/-- A character is one unit that is no surrogate, or a pair of surrogates. -/
theorem unitsOfChar_cases (c : Char) :
    (∃ u, u.isValidChar ∧ u < 0x10000 ∧ unitsOfChar c = [u] ∧ Char.ofNat u = c) ∨
      ∃ u v, IsHigh u ∧ IsLow v ∧ unitsOfChar c = [u, v] ∧
        Char.ofNat (0x10000 + (u - 0xD800) * 1024 + (v - 0xDC00)) = c := by
  have hvalid : c.toNat < 0xD800 ∨ 0xDFFF < c.toNat ∧ c.toNat < 0x110000 := c.valid
  by_cases h : c.toNat < 0x10000
  · exact .inl ⟨c.toNat, hvalid, h, if_pos h, Char.ofNat_toNat c⟩
  · refine .inr ⟨0xD800 + (c.toNat - 0x10000) / 1024, 0xDC00 + (c.toNat - 0x10000) % 1024,
      ⟨by omega, by omega⟩, ⟨by omega, by omega⟩, if_neg h, ?_⟩
    have hnumber : 0x10000 + (0xD800 + (c.toNat - 0x10000) / 1024 - 0xD800) * 1024 +
        (0xDC00 + (c.toNat - 0x10000) % 1024 - 0xDC00) = c.toNat := by omega
    rw [hnumber, Char.ofNat_toNat]

theorem ofUnits?_unitsOfChar_append (c : Char) (us : List Nat) :
    ofUnits? (unitsOfChar c ++ us) = (ofUnits? us).map (c :: ·) := by
  obtain ⟨u, hu, -, hunits, hc⟩ | ⟨u, v, hu, hv, hunits, hc⟩ := unitsOfChar_cases c
  · rw [hunits, List.singleton_append, ofUnits?_cons hu, hc]
  · rw [hunits, List.cons_append, List.singleton_append, ofUnits?_pair hu hv, hc]

theorem ofUnits?_units (text : Text) : ofUnits? (units text) = some text := by
  induction text with
  | nil => rfl
  | cons c text ih => rw [units_cons, ofUnits?_unitsOfChar_append, ih, Option.map_some]

theorem lt_of_mem_units {text : Text} {u : Nat} (h : u ∈ units text) : u < 0x10000 := by
  obtain ⟨c, -, hu⟩ := List.mem_flatMap.1 h
  obtain ⟨v, -, hlt, hunits, -⟩ | ⟨v, w, hhigh, hlow, hunits, -⟩ := unitsOfChar_cases c
  · rw [hunits, List.mem_singleton] at hu
    exact hu ▸ hlt
  · simp only [hunits, List.mem_cons, List.not_mem_nil, or_false, IsHigh, IsLow] at hu hhigh hlow
    omega

theorem eq_units_of_ofUnits? {us : List Nat} {text : Text} (h : ∀ u ∈ us, u < 0x10000)
    (ht : ofUnits? us = some text) : units text = us := by
  fun_induction ofUnits? us generalizing text with
  | case1 =>
    cases ht
    rfl
  | case2 u hu =>
    cases ht
    rw [units_cons, unitsOfChar_ofNat hu (h u (List.mem_singleton_self u)), units_nil,
      List.append_nil]
  | case3 u hu => cases ht
  | case4 u v rest hu ih =>
    obtain ⟨text, hrest, rfl⟩ := Option.map_eq_some_iff.1 ht
    rw [units_cons, unitsOfChar_ofNat hu (h u (List.mem_cons_self ..)),
      ih (fun w hw => h w (List.mem_cons_of_mem _ hw)) hrest, List.singleton_append]
  | case5 u v rest hu hpair ih =>
    obtain ⟨text, hrest, rfl⟩ := Option.map_eq_some_iff.1 ht
    rw [units_cons, unitsOfChar_ofNat_pair ⟨hpair.1, hpair.2.1⟩ hpair.2.2,
      ih (fun w hw => h w (List.mem_cons_of_mem _ (List.mem_cons_of_mem _ hw))) hrest]
    rfl
  | case6 u v rest hu hpair => cases ht

/-- A text is read from its own code units, and from no others. -/
theorem ofUnits?_eq_some_iff {us : List Nat} {text : Text} (h : ∀ u ∈ us, u < 0x10000) :
    ofUnits? us = some text ↔ units text = us := by
  constructor
  · exact eq_units_of_ofUnits? h
  · rintro rfl
    exact ofUnits?_units text

/-! ## Units and bytes -/

theorem unitOfBytes_lt (order : ByteOrder) (a b : UInt8) : unitOfBytes order a b < 0x10000 := by
  have ha := a.toNat_lt
  have hb := b.toNat_lt
  cases order with
  | lowFirst =>
    show a.toNat + 256 * b.toNat < 0x10000
    omega
  | highFirst =>
    show 256 * a.toNat + b.toNat < 0x10000
    omega

theorem lt_of_mem_unitsOfBytes {order : ByteOrder} {bytes : Bytes} {u : Nat}
    (h : u ∈ unitsOfBytes order bytes) : u < 0x10000 := by
  fun_induction unitsOfBytes order bytes with
  | case1 a b rest ih =>
    rcases List.mem_cons.1 h with rfl | h
    · exact unitOfBytes_lt order a b
    · exact ih h
  | case2 => cases h

/-- The two bytes of a unit make up the unit. -/
theorem unitsOfBytes_bytesOfUnit_append {order : ByteOrder} {u : Nat} (h : u < 0x10000)
    (bytes : Bytes) :
    unitsOfBytes order (bytesOfUnit order u ++ bytes) = u :: unitsOfBytes order bytes := by
  have hlow : (u % 256).toUInt8.toNat = u % 256 := toNat_toUInt8 (by omega)
  have hhigh : (u / 256).toUInt8.toNat = u / 256 := toNat_toUInt8 (by omega)
  cases order with
  | lowFirst =>
    simp only [bytesOfUnit, List.cons_append, List.nil_append, unitsOfBytes, unitOfBytes, hlow,
      hhigh]
    rw [Nat.mod_add_div]
  | highFirst =>
    simp only [bytesOfUnit, List.cons_append, List.nil_append, unitsOfBytes, unitOfBytes, hlow,
      hhigh]
    rw [Nat.div_add_mod]

theorem bytesOfUnit_unitOfBytes (order : ByteOrder) (a b : UInt8) :
    bytesOfUnit order (unitOfBytes order a b) = [a, b] := by
  have ha := a.toNat_lt
  have hb := b.toNat_lt
  cases order with
  | lowFirst =>
    have hlow : a = ((a.toNat + 256 * b.toNat) % 256).toUInt8 := eq_toUInt8 (by omega)
    have hhigh : b = ((a.toNat + 256 * b.toNat) / 256).toUInt8 := eq_toUInt8 (by omega)
    simp only [bytesOfUnit, unitOfBytes]
    rw [← hlow, ← hhigh]
  | highFirst =>
    have hhigh : a = ((256 * a.toNat + b.toNat) / 256).toUInt8 := eq_toUInt8 (by omega)
    have hlow : b = ((256 * a.toNat + b.toNat) % 256).toUInt8 := eq_toUInt8 (by omega)
    simp only [bytesOfUnit, unitOfBytes]
    rw [← hhigh, ← hlow]

theorem unitsOfBytes_flatMap {order : ByteOrder} {us : List Nat} (h : ∀ u ∈ us, u < 0x10000) :
    unitsOfBytes order (us.flatMap (bytesOfUnit order)) = us := by
  induction us with
  | nil => rfl
  | cons u us ih =>
    rw [List.flatMap_cons, unitsOfBytes_bytesOfUnit_append (h u (List.mem_cons_self ..)),
      ih fun v hv => h v (List.mem_cons_of_mem _ hv)]

theorem flatMap_unitsOfBytes {order : ByteOrder} {bytes : Bytes} (h : bytes.length % 2 = 0) :
    (unitsOfBytes order bytes).flatMap (bytesOfUnit order) = bytes := by
  fun_induction unitsOfBytes order bytes with
  | case1 a b rest ih =>
    have hrest : rest.length % 2 = 0 := by
      simp only [List.length_cons] at h
      omega
    rw [List.flatMap_cons, bytesOfUnit_unitOfBytes, ih hrest, List.cons_append,
      List.singleton_append]
  | case2 bytes hshort =>
    cases bytes with
    | nil => rfl
    | cons a bytes =>
      cases bytes with
      | nil => simp at h
      | cons b rest => exact absurd rfl (hshort a b rest)

theorem length_flatMap_bytesOfUnit (order : ByteOrder) (us : List Nat) :
    (us.flatMap (bytesOfUnit order)).length = 2 * us.length := by
  have hunit : ∀ u, (bytesOfUnit order u).length = 2 := by
    intro u
    cases order <;> rfl
  induction us with
  | nil => rfl
  | cons u us ih =>
    rw [List.flatMap_cons, List.length_append, hunit, ih, List.length_cons]
    omega

theorem length_encode_mod_two (order : ByteOrder) (text : Text) :
    (encode order text).length % 2 = 0 := by
  rw [encode, length_flatMap_bytesOfUnit, Nat.mul_mod_right]

/-- A text is decoded from its encoding, and from no other bytes of even number. -/
theorem decode?_eq_some_iff {order : ByteOrder} {bytes : Bytes} {text : Text}
    (h : bytes.length % 2 = 0) : decode? order bytes = some text ↔ encode order text = bytes := by
  rw [decode?, ofUnits?_eq_some_iff fun u hu => lt_of_mem_unitsOfBytes hu, encode]
  constructor
  · intro hunits
    rw [hunits, flatMap_unitsOfBytes h]
  · rintro rfl
    rw [unitsOfBytes_flatMap fun u hu => lt_of_mem_units hu]

end Wordbridge.Utf16
