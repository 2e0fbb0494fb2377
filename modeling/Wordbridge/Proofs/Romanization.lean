import Mathlib.Data.List.Basic
import Mathlib.Data.List.Range
import Wordbridge.Romanization

/-!
# The longest unit first

To find a unit, the table is asked for what the text starts with, from the
length of the longest unit, or of the text if that is shorter, downwards
(`candidates`). This finds the longest unit that fits, as if all units were
tried (`IsLongest`):

* `longest?_eq_some_iff`, `longest?_eq_none_iff`: what is found;
* `spell_append`, `spell_cons`: the step, where a unit fits and where none does;
* `isSpelling_iff_eq_spell`: the whole text;
* `mem_or_of_mem_spell`: where the characters of a spelling come from.
-/

namespace Wordbridge.UnitTable

/-- The unit is the longest one of the table that the text starts with. The empty unit does not
count. -/
structure IsLongest (units : Std.TreeMap Text Text) (text unit value : Text) : Prop where
  image : units[unit]? = some value
  ne_nil : unit ≠ []
  isPrefix : unit <+: text
  length_le : ∀ other ∈ units, other <+: text → other.length ≤ unit.length

/-- No unit of the table fits at the start of the text. -/
def NoneFits (units : Std.TreeMap Text Text) (text : Text) : Prop :=
  ∀ unit ∈ units, unit ≠ [] → ¬ unit <+: text

/-- The text is spelled from left to right. At each place the longest unit gives way to its value,
and a character where none fits stays. -/
inductive IsSpelling (units : Std.TreeMap Text Text) : Text → Text → Prop
  | nil : IsSpelling units [] []
  | unit {text unit value rest spelling : Text} (source : text = unit ++ rest)
    (longest : IsLongest units text unit value) (behind : IsSpelling units rest spelling) :
    IsSpelling units text (value ++ spelling)
  | plain {c : Char} {rest spelling : Text} (noneFits : NoneFits units (c :: rest))
    (behind : IsSpelling units rest spelling) : IsSpelling units (c :: rest) (c :: spelling)

/-- What the table is asked for at the start of a text: what the text starts with, the longest
first. -/
def candidates (table : UnitTable) (text : Text) : List Text :=
  (List.range' 1 (min table.longest text.length)).reverse.map text.take

variable {units : Std.TreeMap Text Text} {table : UnitTable} {text unit value : Text}

/-! ## Candidates -/

/-- No candidate is cut short by the end of the text. -/
theorem map_length_candidates (table : UnitTable) (text : Text) :
    (table.candidates text).map List.length =
      (List.range' 1 (min table.longest text.length)).reverse := by
  have hlength : ∀ n ∈ (List.range' 1 (min table.longest text.length)).reverse,
      (text.take n).length = n := by
    intro n hn
    simp only [List.mem_reverse, List.mem_range'_1] at hn
    rw [List.length_take]
    omega
  rw [candidates, List.map_map]
  exact (List.map_congr_left hlength).trans (List.map_id' _)

theorem pairwise_length_candidates (table : UnitTable) (text : Text) :
    (table.candidates text).Pairwise fun a b => b.length < a.length := by
  have hlengths : ((table.candidates text).map List.length).Pairwise fun m n => n < m := by
    rw [map_length_candidates, List.pairwise_reverse]
    exact List.pairwise_lt_range' 1
  exact List.pairwise_map.1 hlengths

theorem mem_candidates_iff :
    unit ∈ table.candidates text ↔
      unit ≠ [] ∧ unit <+: text ∧ unit.length ≤ table.longest := by
  simp only [candidates, List.mem_map, List.mem_reverse, List.mem_range'_1]
  constructor
  · rintro ⟨n, hn, rfl⟩
    refine ⟨fun hnil => ?_, List.take_prefix n text, ?_⟩
    · have := congrArg List.length hnil
      rw [List.length_take, List.length_nil] at this
      omega
    · rw [List.length_take]
      omega
  · rintro ⟨hne, hprefix, hle⟩
    have hpos := List.length_pos_iff.2 hne
    have hlength := hprefix.length_le
    exact ⟨unit.length, by omega, (List.prefix_iff_eq_take.1 hprefix).symm⟩

/-- The table is asked for one candidate after the other. -/
theorem longestUpTo?_eq_findSome? {bound : Nat} (h : bound ≤ text.length) :
    table.longestUpTo? text bound =
      ((List.range' 1 bound).reverse.map text.take).findSome? fun unit =>
        table.units[unit]?.map fun value => (unit.length, value) := by
  induction bound with
  | zero => rfl
  | succ bound ih =>
    have hlength : (text.take (bound + 1)).length = bound + 1 := by
      rw [List.length_take]
      omega
    rw [List.range'_concat, Nat.one_mul, Nat.add_comm 1 bound, List.reverse_append,
      List.reverse_singleton, List.singleton_append, List.map_cons, List.findSome?_cons, hlength,
      ← ih (by omega), longestUpTo?]
    cases table.units[text.take (bound + 1)]? with
    | none => rfl
    | some value => rfl

theorem longest?_eq_findSome? (table : UnitTable) (text : Text) :
    table.longest? text = (table.candidates text).findSome? fun unit =>
      table.units[unit]?.map fun value => (unit.length, value) :=
  longestUpTo?_eq_findSome? (Nat.min_le_right _ _)

/-! ## The longest unit -/

theorem le_foldl_max_length (keys : List Text) (start : Nat) :
    start ≤ keys.foldl (fun n unit => max n unit.length) start ∧
      ∀ unit ∈ keys, unit.length ≤ keys.foldl (fun n unit => max n unit.length) start := by
  induction keys generalizing start with
  | nil => simp
  | cons key keys ih =>
    obtain ⟨hstart, hkeys⟩ := ih (max start key.length)
    rw [List.foldl_cons]
    refine ⟨by omega, fun unit hunit => ?_⟩
    rcases List.mem_cons.1 hunit with rfl | hunit
    · omega
    · exact hkeys unit hunit

/-- No unit is longer than the bound of the search. -/
theorem length_le_longest (h : unit ∈ units) : unit.length ≤ (ofUnits units).longest :=
  (le_foldl_max_length units.keys 0).2 unit (Std.TreeMap.mem_keys.2 h)

theorem IsLongest.mem (h : IsLongest units text unit value) : unit ∈ units :=
  (Std.TreeMap.getElem?_eq_some_iff.1 h.image).1

/-- At a place there is one longest unit. -/
theorem IsLongest.eq {unit' value' : Text} (h : IsLongest units text unit value)
    (h' : IsLongest units text unit' value') : unit = unit' ∧ value = value' := by
  have hle := h'.length_le unit h.mem h.isPrefix
  have hge := h.length_le unit' h'.mem h'.isPrefix
  have hunit : unit = unit' :=
    (List.prefix_of_prefix_length_le h.isPrefix h'.isPrefix hle).eq_of_length (by omega)
  refine ⟨hunit, Option.some.inj ?_⟩
  rw [← h.image, ← h'.image, hunit]

theorem longest?_eq_none_iff : (ofUnits units).longest? text = none ↔ NoneFits units text := by
  rw [longest?_eq_findSome?, List.findSome?_eq_none_iff]
  simp only [Option.map_eq_none_iff, ofUnits, getElem?_eq_none_iff]
  constructor
  · intro h unit hunit hne hprefix
    exact h unit (mem_candidates_iff.2 ⟨hne, hprefix, length_le_longest hunit⟩) hunit
  · intro h unit hcandidate hunit
    obtain ⟨hne, hprefix, -⟩ := mem_candidates_iff.1 hcandidate
    exact h unit hunit hne hprefix

/-- The first candidate that is a unit is as long as any unit that fits. -/
theorem exists_isLongest_of_longest? {length : Nat}
    (h : (ofUnits units).longest? text = some (length, value)) :
    ∃ unit, IsLongest units text unit value ∧ length = unit.length := by
  rw [longest?_eq_findSome?, List.findSome?_eq_some_iff] at h
  obtain ⟨before, unit, behind, heq, hunit, hbefore⟩ := h
  obtain ⟨value', himage, hpair⟩ := Option.map_eq_some_iff.1 hunit
  obtain ⟨rfl, rfl⟩ := Prod.mk.inj hpair
  have horder := pairwise_length_candidates (ofUnits units) text
  have hcandidate : unit ∈ (ofUnits units).candidates text := by simp [heq]
  obtain ⟨hne, hprefix, -⟩ := mem_candidates_iff.1 hcandidate
  refine ⟨unit, ⟨himage, hne, hprefix, fun other hother hfits => ?_⟩, rfl⟩
  by_cases hnil : other = []
  · simp [hnil]
  · have hmem := mem_candidates_iff.2 ⟨hnil, hfits, length_le_longest hother⟩
    rw [heq] at hmem horder
    rcases List.mem_append.1 hmem with hmem | hmem
    · have hnone : units[other]? = none := Option.map_eq_none_iff.1 (hbefore other hmem)
      exact absurd hother (by simpa using hnone)
    · rcases List.mem_cons.1 hmem with rfl | hmem
      · exact Nat.le_refl _
      · have hlt := List.rel_of_pairwise_cons (List.pairwise_append.1 horder).2.1 hmem
        omega

theorem longest?_eq_some_iff {length : Nat} :
    (ofUnits units).longest? text = some (length, value) ↔
      ∃ unit, IsLongest units text unit value ∧ length = unit.length := by
  refine ⟨exists_isLongest_of_longest?, ?_⟩
  rintro ⟨unit, hlongest, rfl⟩
  cases h : (ofUnits units).longest? text with
  | none =>
    have hnot := longest?_eq_none_iff.1 h unit hlongest.mem hlongest.ne_nil
    exact absurd hlongest.isPrefix hnot
  | some found =>
    obtain ⟨length, value'⟩ := found
    obtain ⟨unit', hlongest', rfl⟩ := exists_isLongest_of_longest? h
    obtain ⟨rfl, rfl⟩ := hlongest.eq hlongest'
    rfl

/-! ## The whole text -/

/-- The longest unit is replaced, and the text goes on behind it. -/
theorem spell_append {rest : Text} (h : IsLongest units (unit ++ rest) unit value) :
    (ofUnits units).spell (unit ++ rest) = value ++ (ofUnits units).spell rest := by
  have hfound : (ofUnits units).longest? (unit ++ rest) = some (unit.length, value) :=
    longest?_eq_some_iff.2 ⟨unit, h, rfl⟩
  cases unit with
  | nil => exact absurd rfl h.ne_nil
  | cons c tail =>
    rw [List.cons_append] at hfound ⊢
    rw [spell]
    split
    · rename_i hs
      rw [hfound] at hs
      cases hs
      rw [← List.cons_append, List.drop_left]
    · rename_i hs
      rw [hfound] at hs
      cases hs

/-- A character where no unit fits stays. -/
theorem spell_cons {c : Char} {rest : Text} (h : NoneFits units (c :: rest)) :
    (ofUnits units).spell (c :: rest) = c :: (ofUnits units).spell rest := by
  have hnone : (ofUnits units).longest? (c :: rest) = none := longest?_eq_none_iff.2 h
  rw [spell]
  split
  · rename_i hs
    rw [hnone] at hs
    cases hs
  · rfl

theorem spell_nil (table : UnitTable) : table.spell [] = [] := by
  rw [spell]

/-- The table spells a text as the longest units say, and in no other way. -/
theorem isSpelling_iff_eq_spell {spelling : Text} :
    IsSpelling units text spelling ↔ spelling = (ofUnits units).spell text := by
  constructor
  · intro h
    induction h with
    | nil => rw [spell_nil]
    | unit source longest _ ih =>
      rw [source] at longest ⊢
      rw [spell_append longest, ih]
    | plain noneFits _ ih => rw [spell_cons noneFits, ih]
  · rintro rfl
    fun_induction spell (ofUnits units) text with
    | case1 => exact .nil
    | case2 c text length value h ih =>
      obtain ⟨unit, hlongest, rfl⟩ := longest?_eq_some_iff.1 h
      obtain ⟨rest, hrest⟩ := hlongest.isPrefix
      have hdrop : (c :: text).drop unit.length = rest := by rw [← hrest, List.drop_left]
      rw [hdrop] at ih ⊢
      exact .unit hrest.symm hlongest ih
    | case3 c text h ih => exact .plain (longest?_eq_none_iff.1 h) ih

/-- A unit is spelled as its value. -/
theorem spell_unit (h : units[unit]? = some value) (hne : unit ≠ []) :
    (ofUnits units).spell unit = value := by
  have hlongest : IsLongest units (unit ++ []) unit value :=
    ⟨h, hne, List.prefix_append .., fun _ _ hprefix => by simpa using hprefix.length_le⟩
  have hspell := spell_append hlongest
  rwa [List.append_nil, spell_nil, List.append_nil] at hspell

/-- What is in a spelling is in a value, or stands for itself since it is no unit. -/
theorem mem_or_of_mem_spell {c : Char} (h : c ∈ (ofUnits units).spell text) :
    (∃ unit value : Text, units[unit]? = some value ∧ c ∈ value) ∨ (c ∈ text ∧ [c] ∉ units) := by
  have hs : IsSpelling units text ((ofUnits units).spell text) := isSpelling_iff_eq_spell.2 rfl
  generalize (ofUnits units).spell text = spelling at h hs
  induction hs with
  | nil => cases h
  | unit source longest _ ih =>
    rcases List.mem_append.1 h with h | h
    · exact .inl ⟨_, _, longest.image, h⟩
    · refine (ih h).imp_right fun hrest => ⟨?_, hrest.2⟩
      rw [source]
      exact List.mem_append_right _ hrest.1
  | plain noneFits _ ih =>
    rcases List.mem_cons.1 h with rfl | h
    · refine .inr ⟨List.mem_cons_self .., fun hunit => ?_⟩
      exact noneFits _ hunit (List.cons_ne_nil _ _) (by simp)
    · exact (ih h).imp_right fun hrest => ⟨List.mem_cons_of_mem _ hrest.1, hrest.2⟩

/-- Romanisation is the spelling of the text in lower case, by the longest unit of the whole table
at each place. The table is asked for what the text starts with there, from the longest candidate to
a single character, and no candidate reaches beyond the end of the text. -/
theorem isSpelling_lower_iff_eq_romanize (units : Std.TreeMap Text Text) (text : Text) :
    (∀ spelling, IsSpelling units (Text.lower text) spelling ↔
      spelling = (ofUnits units).romanize text) ∧
    ∀ rest : Text,
      ((ofUnits units).longest? rest = ((ofUnits units).candidates rest).findSome? fun unit =>
        units[unit]?.map fun value => (unit.length, value)) ∧
      ((ofUnits units).candidates rest).map List.length =
        (List.range' 1 (min (ofUnits units).longest rest.length)).reverse :=
  ⟨fun _ => isSpelling_iff_eq_spell, fun rest =>
    ⟨longest?_eq_findSome? (ofUnits units) rest, map_length_candidates (ofUnits units) rest⟩⟩

example : (ofUnits (.ofList [("".toList, "-".toList), ("x".toList, "1".toList),
      ("xyz".toList, "3".toList), ("yz".toList, "2".toList)])).romanize "XyzxyzXy.".toList =
    "331y.".toList := by
  decide +kernel

end Wordbridge.UnitTable
