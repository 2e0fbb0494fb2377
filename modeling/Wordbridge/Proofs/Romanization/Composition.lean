import Wordbridge.Proofs.Romanization.Document
import Wordbridge.Proofs.Text.LowerCase

/-!
# Letters with a mark, composed and decomposed

Four Cyrillic letters can be written as one character or as a base letter with
a combining mark. The default table spells both alike, in any text:

* `decomposes_lowerBehind`: in lower case, the text with its letters decomposed
  is the text in lower case with letters decomposed. Decomposing keeps what
  decides on a final `Σ`, since a mark is ignored and a base letter is cased as
  the letter is;
* `isSpelling_of_decomposes`: both texts are spelled alike, place by place, by
  a table that has no other units of several characters (`Composes`).
-/

namespace Wordbridge

/-- A letter that is also written as two characters, a base letter and a combining mark. -/
structure Composite where
  letter : Char
  base : Char
  mark : Char
  deriving DecidableEq

namespace Composite

/-- The small letters with a breve or a diaeresis. -/
def small : List Composite :=
  [⟨'й', 'и', '\u0306'⟩, ⟨'ё', 'е', '\u0308'⟩, ⟨'ї', 'і', '\u0308'⟩, ⟨'ў', 'у', '\u0306'⟩]

/-- The capital letters with a breve or a diaeresis. -/
def capital : List Composite :=
  [⟨'Й', 'И', '\u0306'⟩, ⟨'Ё', 'Е', '\u0308'⟩, ⟨'Ї', 'І', '\u0308'⟩, ⟨'Ў', 'У', '\u0306'⟩]

/-- The letter and its base letter are cased, and the mark is ignored by case. -/
theorem isCased : ∀ p ∈ small ++ capital,
    Text.caseIgnorable.contains p.letter = false ∧ Text.cased.contains p.letter = true ∧
      Text.caseIgnorable.contains p.base = false ∧ Text.cased.contains p.base = true ∧
      Text.caseIgnorable.contains p.mark = true := by
  decide +kernel

/-- In lower case, a letter and its two characters are a small letter and its two characters. -/
theorem exists_small : ∀ p ∈ small ++ capital, ∃ q ∈ small,
    (p.letter ≠ 'Σ' ∧ Text.lowerChar p.letter = [q.letter]) ∧
      (p.base ≠ 'Σ' ∧ Text.lowerChar p.base = [q.base]) ∧
      p.mark ≠ 'Σ' ∧ Text.lowerChar p.mark = [q.mark] := by
  decide +kernel

end Composite

/-! ## Decomposed texts -/

/-- A letter with a mark as its two characters, and any other character as it is. -/
def Text.decomposeChar (c : Char) : Text :=
  match (Composite.small ++ Composite.capital).find? (·.letter = c) with
  | some p => [p.base, p.mark]
  | none => [c]

/-- The text with all letters with a mark written as two characters. -/
def Text.decompose (text : Text) : Text :=
  text.flatMap decomposeChar

/-- The second text is the first one with some of the letters written as two characters. -/
inductive Decomposes (pairs : List Composite) : Text → Text → Prop
  | nil : Decomposes pairs [] []
  | keep {c : Char} {text text' : Text} (behind : Decomposes pairs text text') :
    Decomposes pairs (c :: text) (c :: text')
  | split {p : Composite} {text text' : Text} (mem : p ∈ pairs)
    (behind : Decomposes pairs text text') :
    Decomposes pairs (p.letter :: text) (p.base :: p.mark :: text')

variable {pairs : List Composite} {p : Composite} {c : Char} {text text' : Text}

theorem Text.decompose_cons_cases (c : Char) (text : Text) :
    (∃ p ∈ Composite.small ++ Composite.capital,
      c = p.letter ∧ decompose (c :: text) = p.base :: p.mark :: decompose text) ∨
    decompose (c :: text) = c :: decompose text := by
  rw [decompose, List.flatMap_cons, decomposeChar]
  split
  · rename_i p hp
    have hletter : p.letter = c := by simpa using List.find?_some hp
    exact .inl ⟨p, List.mem_of_find?_eq_some hp, hletter.symm, rfl⟩
  · exact .inr rfl

example : Text.decompose "Мой ЁЖ".toList = "Мои\u0306 Е\u0308Ж".toList := by
  decide

theorem decomposes_cons_iff :
    Decomposes pairs (c :: text) text' ↔
      (∃ rest, text' = c :: rest ∧ Decomposes pairs text rest) ∨
      ∃ p ∈ pairs, c = p.letter ∧
        ∃ rest, text' = p.base :: p.mark :: rest ∧ Decomposes pairs text rest := by
  constructor
  · intro h
    cases h with
    | keep behind => exact .inl ⟨_, rfl, behind⟩
    | split mem behind => exact .inr ⟨_, mem, rfl, _, rfl, behind⟩
  · rintro (⟨rest, rfl, behind⟩ | ⟨p, mem, rfl, rest, rfl, behind⟩)
    · exact .keep behind
    · exact .split mem behind

theorem Decomposes.append_left (h : Decomposes pairs text text') (front : Text) :
    Decomposes pairs (front ++ text) (front ++ text') := by
  induction front with
  | nil => exact h
  | cons c front ih => exact .keep ih

/-! ## Lower case -/

namespace Text

section Cased

variable (hp : p ∈ Composite.small ++ Composite.capital) (text : Text)

include hp

theorem startsCased_letter : startsCased (p.letter :: text) = true := by
  obtain ⟨hletter, hcased, -⟩ := Composite.isCased p hp
  rw [startsCased_cons, hletter, hcased]
  rfl

theorem startsCased_base : startsCased (p.base :: text) = true := by
  obtain ⟨-, -, hbase, hcased, -⟩ := Composite.isCased p hp
  rw [startsCased_cons, hbase, hcased]
  rfl

theorem startsCased_mark : startsCased (p.mark :: text) = startsCased text := by
  obtain ⟨-, -, -, -, hmark⟩ := Composite.isCased p hp
  rw [startsCased_cons, hmark]
  rfl

end Cased

/-- Decomposing a text does not change what a `Σ` before it sees. -/
theorem startsCased_decompose (text : Text) : startsCased (decompose text) = startsCased text := by
  induction text with
  | nil => rfl
  | cons c text ih =>
    rcases decompose_cons_cases c text with ⟨p, hp, rfl, hcons⟩ | hcons
    · rw [hcons, startsCased_base hp, startsCased_letter hp]
    · rw [hcons]
      exact startsCased_cons_congr c ih

theorem lowerBehind_cons_of_ne (hc : c ≠ 'Σ') (before text : Text) :
    lowerBehind before (c :: text) = lowerChar c ++ lowerBehind (c :: before) text := by
  rw [lowerBehind, if_neg hc]

theorem decomposes_lowerBehind {before before' : Text}
    (h : startsCased before = startsCased before') (text : Text) :
    Decomposes Composite.small (lowerBehind before text)
      (lowerBehind before' (decompose text)) := by
  induction text generalizing before before' with
  | nil => exact .nil
  | cons c text ih =>
    rcases decompose_cons_cases c text with ⟨p, hp, rfl, hcons⟩ | hcons
    · obtain ⟨q, hq, ⟨hletter, hletter'⟩, ⟨hbase, hbase'⟩, hmark, hmark'⟩ :=
        Composite.exists_small p hp
      rw [hcons, lowerBehind_cons_of_ne hletter, lowerBehind_cons_of_ne hbase,
        lowerBehind_cons_of_ne hmark, hletter', hbase', hmark']
      refine .split hq (ih ?_)
      rw [startsCased_letter hp, startsCased_mark hp, startsCased_base hp]
    · have hsigma : lowerSigma before' (decompose text) = lowerSigma before text := by
        rw [lowerSigma, lowerSigma, startsCased_decompose, h]
      rw [hcons, lowerBehind, lowerBehind, hsigma]
      exact (ih (startsCased_cons_congr c h)).append_left _

end Text

/-! ## Spelling -/

namespace UnitTable

/-- The table spells a letter and its two characters alike, and has no other units of several
characters. No base letter and no mark is one of the letters, and no mark is a base letter. -/
structure Composes (units : Std.TreeMap Text Text) (pairs : List Composite) : Prop where
  image : ∀ p ∈ pairs,
    ∃ value, units[[p.letter]]? = some value ∧ units[[p.base, p.mark]]? = some value
  eq_pair : ∀ unit ∈ units, 1 < unit.length → ∃ p ∈ pairs, unit = [p.base, p.mark]
  apart : ∀ p ∈ pairs, ∀ q ∈ pairs, p.letter ≠ q.base ∧ p.letter ≠ q.mark ∧ p.base ≠ q.mark

variable {units : Std.TreeMap Text Text} {unit value spelling : Text}

theorem Composes.unit_cases (h : Composes units pairs) (hunit : unit ∈ units) (hne : unit ≠ []) :
    (∃ c, unit = [c]) ∨ ∃ p ∈ pairs, unit = [p.base, p.mark] := by
  by_cases hlength : 1 < unit.length
  · exact .inr (h.eq_pair unit hunit hlength)
  · have hpos := List.length_pos_iff.2 hne
    exact .inl (List.length_eq_one_iff.1 (by omega))

/-- A mark that starts the text starts it in either form. -/
theorem Composes.mark_isPrefix_iff (h : Composes units pairs) (hp : p ∈ pairs)
    (hd : Decomposes pairs text text') : [p.mark] <+: text' ↔ [p.mark] <+: text := by
  cases hd with
  | nil => rfl
  | keep => simp [List.cons_prefix_cons]
  | split mem =>
    obtain ⟨-, hletter, hbase⟩ := h.apart _ mem p hp
    simp [List.cons_prefix_cons, hletter.symm, hbase.symm]

/-- Behind a character that is kept, the same units fit. -/
theorem Composes.isPrefix_cons_iff (h : Composes units pairs) (hd : Decomposes pairs text text')
    (hunit : unit ∈ units) : unit <+: c :: text' ↔ unit <+: c :: text := by
  by_cases hne : unit = []
  · simp [hne]
  · rcases h.unit_cases hunit hne with ⟨d, rfl⟩ | ⟨p, hp, rfl⟩
    · simp [List.cons_prefix_cons]
    · rw [List.cons_prefix_cons, List.cons_prefix_cons, h.mark_isPrefix_iff hp hd]

/-- No unit is longer than a letter with its mark. -/
theorem Composes.isLongest_pair (h : Composes units pairs)
    (himage : units[[p.base, p.mark]]? = some value) (rest : Text) :
    IsLongest units (p.base :: p.mark :: rest) [p.base, p.mark] value := by
  refine ⟨himage, List.cons_ne_nil _ _, ⟨rest, rfl⟩, fun other hother _ => ?_⟩
  by_cases hlength : 1 < other.length
  · obtain ⟨q, -, rfl⟩ := h.eq_pair other hother hlength
    exact Nat.le_refl 2
  · simp only [List.length_cons, List.length_nil]
    omega

theorem isSpelling_of_decomposes (h : Composes units pairs) (hs : IsSpelling units text spelling)
    (hd : Decomposes pairs text text') : IsSpelling units text' spelling := by
  induction hs generalizing text' with
  | nil =>
    cases hd
    exact .nil
  | @unit text unit value rest spelling source longest _ ih =>
    rcases h.unit_cases longest.mem longest.ne_nil with ⟨c, rfl⟩ | ⟨p, hp, rfl⟩
    · rw [source, List.singleton_append] at hd longest
      rcases decomposes_cons_iff.1 hd with ⟨rest', rfl, behind⟩ | ⟨p, hp, rfl, rest', rfl, behind⟩
      · refine .unit rfl ⟨longest.image, longest.ne_nil, ⟨rest', rfl⟩, ?_⟩ (ih behind)
        intro other hother hprefix
        exact longest.length_le other hother ((h.isPrefix_cons_iff behind hother).1 hprefix)
      · obtain ⟨value', himage, himage'⟩ := h.image p hp
        obtain rfl : value = value' := Option.some.inj (longest.image.symm.trans himage)
        exact .unit rfl (h.isLongest_pair himage' rest') (ih behind)
    · rw [source, List.cons_append, List.singleton_append] at hd
      rcases decomposes_cons_iff.1 hd with ⟨tail, rfl, hmark⟩ | ⟨q, hq, heq, -⟩
      · rcases decomposes_cons_iff.1 hmark with ⟨rest', rfl, behind⟩ | ⟨q, hq, heq, -⟩
        · exact .unit rfl (h.isLongest_pair longest.image rest') (ih behind)
        · exact absurd heq.symm (h.apart q hq p hp).2.1
      · exact absurd heq.symm (h.apart q hq p hp).1
  | @plain c rest spelling noneFits _ ih =>
    rcases decomposes_cons_iff.1 hd with ⟨rest', rfl, behind⟩ | ⟨p, hp, rfl, -⟩
    · refine .plain (fun unit hunit hne hprefix => ?_) (ih behind)
      exact noneFits unit hunit hne ((h.isPrefix_cons_iff behind hunit).1 hprefix)
    · obtain ⟨value, himage, -⟩ := h.image p hp
      have hunit : [p.letter] ∈ units := (Std.TreeMap.getElem?_eq_some_iff.1 himage).1
      exact absurd ⟨rest, rfl⟩ (noneFits _ hunit (List.cons_ne_nil _ _))

theorem composes_default : Composes default.units Composite.small := by
  have himage : ∀ p ∈ Composite.small, ∃ entry ∈ default.units.toList,
      entry.1 = [p.letter] ∧ ([p.base, p.mark], entry.2) ∈ default.units.toList := by
    rw [toList_units_default]
    decide
  have hpair : ∀ entry ∈ default.units.toList, 1 < entry.1.length →
      ∃ p ∈ Composite.small, entry.1 = [p.base, p.mark] := by
    rw [toList_units_default]
    decide
  simp only [Prod.forall, Prod.exists, Std.TreeMap.mem_toList_iff_getElem?_eq_some] at himage hpair
  refine ⟨fun p hp => ?_, fun unit hunit => ?_, by decide⟩
  · obtain ⟨unit, value, hletter, rfl, hboth⟩ := himage p hp
    exact ⟨value, hletter, hboth⟩
  · exact hpair unit _ (Std.TreeMap.getElem?_eq_some_getElem hunit)

/-- The default table romanises a text alike whether its letters with a breve or a diaeresis are
written as one character or as two. -/
theorem romanize_decompose (text : Text) :
    default.romanize (Text.decompose text) = default.romanize text := by
  have hdefault : default = ofUnits default.units := (isEffective_of_parse parse_defaultText).2
  have hd : Decomposes Composite.small (Text.lower text) (Text.lower (Text.decompose text)) :=
    Text.decomposes_lowerBehind rfl text
  have hs : IsSpelling default.units (Text.lower text) (default.romanize text) := by
    refine isSpelling_iff_eq_spell.2 ?_
    rw [← hdefault]
    rfl
  have hs' := isSpelling_iff_eq_spell.1 (isSpelling_of_decomposes composes_default hs hd)
  rw [← hdefault] at hs'
  exact hs'.symm

end UnitTable

end Wordbridge
