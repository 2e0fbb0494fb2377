import Wordbridge.Proofs.Romanization.Document
import Wordbridge.Proofs.Text.LowerCase

/-!
# Romanised texts stay as they are

A value that is empty brings characters together that were apart, and a
character that is no unit by itself may still belong to a longer one. Neither
makes a new unit where the units start with units of one character beyond ASCII
(`IsStable`): then no unit starts with a character of a romanised text
(`cons_not_mem_of_mem_romanize`), and such a text is in lower case already
(`isLower_of_mem_romanize`).
-/

namespace Wordbridge.UnitTable

/-- The values are in lower case, and each unit starts with a character beyond ASCII that is a unit
by itself. -/
structure IsStable (table : UnitTable) : Prop where
  lower_value : ∀ unit value : Text, table.units[unit]? = some value → Text.lower value = value
  starts : ∀ unit ∈ table.units,
    ∃ c rest, unit = c :: rest ∧ 0x80 ≤ c.toNat ∧ [c] ∈ table.units

variable {units : Std.TreeMap Text Text} {text : Text} {c : Char}

/-- A text stays if no unit starts with one of its characters. -/
theorem spell_eq_self (h : ∀ c ∈ text, ∀ rest, c :: rest ∉ units) :
    (ofUnits units).spell text = text := by
  induction text with
  | nil => rw [spell_nil]
  | cons c text ih =>
    have hnone : NoneFits units (c :: text) := by
      intro unit hunit hne hprefix
      obtain ⟨d, tail, rfl⟩ := List.exists_cons_of_ne_nil hne
      obtain ⟨rfl, -⟩ := List.cons_prefix_cons.1 hprefix
      exact h d (List.mem_cons_self ..) tail hunit
    rw [spell_cons hnone, ih fun d hd => h d (List.mem_cons_of_mem _ hd)]

theorem toNat_lt_of_isAsciiLetter (h : Text.IsAsciiLetter c) : c.toNat < 0x80 := by
  rcases h with ⟨-, h⟩ | ⟨-, h⟩
  · exact Nat.lt_of_le_of_lt (Char.le_def.1 h) (by decide)
  · exact Nat.lt_of_le_of_lt (Char.le_def.1 h) (by decide)

/-- No unit starts in a romanised text. -/
theorem cons_not_mem_of_mem_romanize (he : IsEffective units) (hs : IsStable (ofUnits units))
    (h : c ∈ (ofUnits units).romanize text) (rest : Text) : c :: rest ∉ units := by
  intro hmem
  obtain ⟨d, tail, heq, hbeyond, hunit⟩ := hs.starts _ hmem
  obtain ⟨rfl, rfl⟩ := List.cons.inj heq
  rcases he.isAsciiLetter_or h with hletter | ⟨-, hnot⟩
  · have := toNat_lt_of_isAsciiLetter hletter
    omega
  · exact hnot hunit

theorem isLower_of_mem_romanize (hs : IsStable (ofUnits units))
    (h : c ∈ (ofUnits units).romanize text) : Text.IsLower c := by
  rcases mem_or_of_mem_spell h with ⟨unit, value, himage, hmem⟩ | ⟨hmem, -⟩
  · exact Text.lower_eq_self_iff.1 (hs.lower_value unit value himage) c hmem
  · exact Text.isLower_of_mem_lowerBehind hmem

/-- A check of the entries one by one. -/
theorem isStable_of_forall_mem_toList {table : UnitTable}
    (hvalues : ∀ entry ∈ table.units.toList,
      entry.2.all (fun c => 0x61 ≤ c.toNat && c.toNat ≤ 0x7A) = true)
    (hfirsts : ∀ entry ∈ table.units.toList, ∃ first ∈ table.units.toList,
      first.1.length = 1 ∧ first.1 <+: entry.1 ∧ first.1.all (0x80 ≤ ·.toNat) = true) :
    IsStable table := by
  simp only [Prod.forall, Prod.exists, Std.TreeMap.mem_toList_iff_getElem?_eq_some,
    List.all_eq_true, Bool.and_eq_true, decide_eq_true_eq] at hvalues hfirsts
  constructor
  · intro unit value himage
    refine Text.lower_eq_self_iff.2 fun c hc => ?_
    obtain ⟨hle, hge⟩ := hvalues unit value himage c hc
    exact Text.isLower_of_le_of_le hle hge
  · intro unit hunit
    obtain ⟨first, value, himage, hlength, hprefix, hbeyond⟩ :=
      hfirsts unit _ (Std.TreeMap.getElem?_eq_some_getElem hunit)
    obtain ⟨c, rfl⟩ := List.length_eq_one_iff.1 hlength
    obtain ⟨rest, rfl⟩ := hprefix
    have hmem : [c] ∈ table.units := (Std.TreeMap.getElem?_eq_some_iff.1 himage).1
    exact ⟨c, rest, rfl, hbeyond c (List.mem_singleton_self c), hmem⟩

theorem isStable_default : IsStable default := by
  apply isStable_of_forall_mem_toList
  · rw [toList_units_default]
    decide
  · rw [toList_units_default]
    decide

/-- A romanised text is romanised as itself, by any table of a document whose values are in lower
case and whose units start with units of one character beyond ASCII. The default is such a table. -/
theorem romanize_romanize_of_isStable :
    (∀ document table, parse document = .ok table → IsStable table →
      ∀ text, table.romanize (table.romanize text) = table.romanize text) ∧
    parse defaultText.toList = .ok default ∧ IsStable default := by
  refine ⟨fun document table h hs text => ?_, parse_defaultText, isStable_default⟩
  obtain ⟨he, htable⟩ := isEffective_of_parse h
  generalize table.units = units at he htable
  subst htable
  have hlower : Text.lower ((ofUnits units).romanize text) = (ofUnits units).romanize text :=
    Text.lower_eq_self_iff.2 fun c hc => isLower_of_mem_romanize hs hc
  calc (ofUnits units).romanize ((ofUnits units).romanize text)
    _ = (ofUnits units).spell ((ofUnits units).romanize text) := by
      rw [romanize, hlower]
    _ = (ofUnits units).romanize text :=
      spell_eq_self fun c hc => cons_not_mem_of_mem_romanize he hs hc

/-- A mark comes to stand behind a letter when the sign between them goes, and a unit of both is not
found in the spelling. -/
theorem romanize_romanize_hard_sign :
    let document := "[mappings]\n\"ъ\" = \"\"\n\"и\" = \"i\"\n\"и\\u0306\" = \"y\"\n".toList
    let table := ofUnits (.ofList [("ъ".toList, []), ("и".toList, "i".toList),
      ("и\u0306".toList, "y".toList)])
    parse document = .ok table ∧ IsStable table ∧
      table.romanize "ИЪ\u0306".toList = "i\u0306".toList ∧
      table.romanize (table.romanize "ИЪ\u0306".toList) = table.romanize "ИЪ\u0306".toList := by
  intro document table
  have hparse : parse document = .ok table := rfl
  have hs : IsStable table := by
    apply isStable_of_forall_mem_toList
    · decide
    · decide
  exact ⟨hparse, hs, by decide +kernel, romanize_romanize_of_isStable.1 document table hparse hs _⟩

end Wordbridge.UnitTable
