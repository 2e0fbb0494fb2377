import Wordbridge.NameTable
import Wordbridge.Proofs.ByteOrder
import Wordbridge.Proofs.Meaning

/-!
# Name tables read both ways

The words of a table are checked one after the other, and the first fault
counts. While there was none, the words are sound: nothing is empty, and each
counterpart was seen with one word (`Sound`). A fault is what would end this
(`sound_append_singleton_iff`), so that the check succeeds exactly if all words
are sound (`check_seen_eq_ok_iff`), and else reports the first fault
(`check_seen_eq_error_iff`).

A sound table gives a lexicon that has a pattern for each word in both
directions (`ReadsBothWays`).
-/

namespace Wordbridge

/-- The pattern that leads back. -/
def Pattern.swap (p : Pattern) : Pattern :=
  ⟨p.image, p.word⟩

namespace NameTable

/-! ## Checking words in order -/

/-- Nothing is empty, and no two words share a counterpart. -/
structure Sound (entries : List (Text × Text)) : Prop where
  ne_nil : ∀ entry ∈ entries, entry.1 ≠ [] ∧ entry.2 ≠ []
  nodup : (entries.map Prod.snd).Nodup

/-- What is wrong with an entry behind others. -/
inductive FaultAt (before : List (Text × Text)) : Text × Text → Error → Prop
  | emptyKey {value : Text} : FaultAt before ([], value) .emptyKey
  | emptyValue {key : Text} (hkey : key ≠ []) : FaultAt before (key, []) (.emptyValue key)
  | duplicateValue {key value first : Text} (hkey : key ≠ []) (hvalue : value ≠ [])
    (mem : (first, value) ∈ before) :
    FaultAt before (key, value) (.duplicateValue value first key)

/-- The counterparts of words that were checked, each with its word, the last one first. -/
def seen (before : List (Text × Text)) : List (Text × Text) :=
  (before.map Prod.swap).reverse

variable {before rest : List (Text × Text)} {entry : Text × Text} {error : Error}

theorem seen_append_singleton (before : List (Text × Text)) (key value : Text) :
    seen (before ++ [(key, value)]) = (value, key) :: seen before := by
  rw [seen, List.map_append, List.map_singleton, List.reverse_append]
  rfl

theorem sound_nil : Sound [] :=
  ⟨fun _ h => (List.not_mem_nil h).elim, List.nodup_nil⟩

theorem Sound.left (h : Sound (before ++ rest)) : Sound before where
  ne_nil entry hm := h.ne_nil entry (List.mem_append_left _ hm)
  nodup := by
    have hn := h.nodup
    rw [List.map_append] at hn
    exact (List.nodup_append.1 hn).1

/-- A counterpart was seen with the one word that has it. -/
theorem lookup_seen_eq_some_iff (h : Sound before) {value first : Text} :
    (seen before).lookup value = some first ↔ (first, value) ∈ before := by
  have hn : ((before.map Prod.swap).map Prod.fst).Nodup := by
    rw [List.map_map]
    exact h.nodup
  refine (History.value?_eq_some_iff_mem hn).trans ?_
  rw [List.mem_map]
  constructor
  · rintro ⟨w, hm, heq⟩
    rwa [← Prod.swap_swap w, heq] at hm
  · exact fun hm => ⟨_, hm, rfl⟩

/-- Words stay sound until there is a fault. -/
theorem sound_append_singleton_iff :
    Sound (before ++ [entry]) ↔ Sound before ∧ ∀ error, ¬ FaultAt before entry error := by
  obtain ⟨key, value⟩ := entry
  constructor
  · refine fun h => ⟨h.left, fun error hf => ?_⟩
    have hentry := h.ne_nil (key, value) (by simp)
    cases hf with
    | emptyKey => exact hentry.1 rfl
    | emptyValue => exact hentry.2 rfl
    | duplicateValue _ _ mem =>
      have hn := h.nodup
      rw [List.map_append, List.nodup_append] at hn
      exact hn.2.2 value (List.mem_map_of_mem mem) value (by simp) rfl
  · rintro ⟨h, hf⟩
    have hkey : key ≠ [] := by
      rintro rfl
      exact hf _ .emptyKey
    have hvalue : value ≠ [] := by
      rintro rfl
      exact hf _ (.emptyValue hkey)
    constructor
    · intro e hm
      rcases List.mem_append.1 hm with hm | hm
      · exact h.ne_nil e hm
      · rw [List.mem_singleton.1 hm]
        exact ⟨hkey, hvalue⟩
    · rw [List.map_append, List.map_singleton, List.nodup_append]
      refine ⟨h.nodup, List.nodup_singleton _, fun v hv v' hv' heq => ?_⟩
      obtain ⟨w, hm, rfl⟩ := List.mem_map.1 hv
      obtain rfl : w.2 = value := heq.trans (List.mem_singleton.1 hv')
      exact hf _ (.duplicateValue hkey hvalue hm)

/-- Behind sound words, the fault of a word is reported. -/
theorem check_seen_cons_of_faultAt (h : Sound before) (hf : FaultAt before entry error)
    (rest : List (Text × Text)) : check (seen before) (entry :: rest) = .error error := by
  cases hf with
  | emptyKey => rw [check, if_pos rfl]
  | emptyValue hkey => rw [check, if_neg hkey, if_pos rfl]
  | duplicateValue hkey hvalue mem =>
    rw [check, if_neg hkey, if_neg hvalue, (lookup_seen_eq_some_iff h).2 mem]

theorem check_seen_cons_of_forall_not (h : Sound before)
    (hf : ∀ error, ¬ FaultAt before entry error) (rest : List (Text × Text)) :
    check (seen before) (entry :: rest) = check (seen (before ++ [entry])) rest := by
  obtain ⟨hkey, hvalue⟩ := (sound_append_singleton_iff.2 ⟨h, hf⟩).ne_nil entry (by simp)
  obtain ⟨key, value⟩ := entry
  have hlookup : (seen before).lookup value = none := by
    refine Option.eq_none_iff_forall_ne_some.2 fun first hfirst => ?_
    exact hf _ (.duplicateValue hkey hvalue ((lookup_seen_eq_some_iff h).1 hfirst))
  rw [check, if_neg hkey, if_neg hvalue, hlookup, seen_append_singleton]

/-- The check succeeds if the words are sound to the last. -/
theorem check_seen_eq_ok_iff (h : Sound before) :
    check (seen before) rest = .ok () ↔ Sound (before ++ rest) := by
  induction rest generalizing before with
  | nil =>
    rw [List.append_nil]
    exact ⟨fun _ => h, fun _ => rfl⟩
  | cons entry rest ih =>
    rw [List.append_cons]
    by_cases hf : ∃ error, FaultAt before entry error
    · obtain ⟨error, hf⟩ := hf
      rw [check_seen_cons_of_faultAt h hf]
      refine ⟨nofun, fun hs => ?_⟩
      exact absurd hf ((sound_append_singleton_iff.1 hs.left).2 error)
    · rw [check_seen_cons_of_forall_not h (not_exists.1 hf),
        ih (sound_append_singleton_iff.2 ⟨h, not_exists.1 hf⟩)]

/-- The check fails with the fault of the first word that is not sound. -/
theorem check_seen_eq_error_iff (h : Sound before) :
    check (seen before) rest = .error error ↔
      ∃ front entry back, rest = front ++ entry :: back ∧ Sound (before ++ front) ∧
        FaultAt (before ++ front) entry error := by
  induction rest generalizing before with
  | nil =>
    refine ⟨nofun, ?_⟩
    rintro ⟨front, entry, back, heq, -⟩
    exact absurd heq (by simp)
  | cons entry rest ih =>
    by_cases hf : ∃ error, FaultAt before entry error
    · obtain ⟨error', hf⟩ := hf
      rw [check_seen_cons_of_faultAt h hf]
      constructor
      · rintro ⟨rfl⟩
        exact ⟨[], entry, rest, rfl, by rwa [List.append_nil], by rwa [List.append_nil]⟩
      · rintro ⟨front, entry', back, heq, hs, hf'⟩
        cases front with
        | nil =>
          obtain ⟨rfl, rfl⟩ := List.cons.inj heq
          rw [List.append_nil] at hf'
          rw [← check_seen_cons_of_faultAt h hf rest, check_seen_cons_of_faultAt h hf']
        | cons e front =>
          obtain ⟨rfl, -⟩ := List.cons.inj heq
          rw [List.append_cons] at hs
          exact absurd hf ((sound_append_singleton_iff.1 hs.left).2 error')
    · have hf := not_exists.1 hf
      rw [check_seen_cons_of_forall_not h hf, ih (sound_append_singleton_iff.2 ⟨h, hf⟩)]
      constructor
      · rintro ⟨front, entry', back, rfl, hs, hf'⟩
        rw [← List.append_cons] at hs hf'
        exact ⟨entry :: front, entry', back, rfl, hs, hf'⟩
      · rintro ⟨front, entry', back, heq, hs, hf'⟩
        cases front with
        | nil =>
          obtain ⟨rfl, rfl⟩ := List.cons.inj heq
          rw [List.append_nil] at hf'
          exact absurd hf' (hf error)
        | cons e front =>
          obtain ⟨rfl, rfl⟩ := List.cons.inj heq
          rw [List.append_cons] at hs hf'
          exact ⟨front, entry', back, rfl, hs, hf'⟩

/-- Words are sound if none has a fault behind those before it. -/
theorem sound_iff_forall_not_faultAt {entries : List (Text × Text)} :
    Sound entries ↔ ∀ front entry back, entries = front ++ entry :: back →
      ∀ error, ¬ FaultAt front entry error := by
  induction entries using List.reverseRecOn with
  | nil => exact ⟨fun _ front entry back heq => absurd heq (by simp), fun _ => sound_nil⟩
  | append_singleton entries entry ih =>
    rw [sound_append_singleton_iff, ih]
    constructor
    · rintro ⟨hfront, hlast⟩ front e back heq
      rcases List.eq_nil_or_concat back with rfl | ⟨back, e', rfl⟩
      · obtain ⟨rfl, he⟩ := List.append_inj' heq rfl
        rw [← (List.cons.inj he).1]
        exact hlast
      · rw [List.concat_eq_append, ← List.cons_append, ← List.append_assoc] at heq
        exact hfront front e back (List.append_inj' heq rfl).1
    · intro h
      refine ⟨fun front e back heq => h front e (back ++ [entry]) ?_, h entries entry [] rfl⟩
      rw [heq, List.append_assoc, List.cons_append]

/-! ## Tables -/

variable {words : Std.TreeMap Text Text}

/-- The table can be read both ways: it has words, none of them and no counterpart is empty, and no
two words share a counterpart. -/
structure IsInvertible (words : Std.TreeMap Text Text) : Prop where
  nonempty : words.isEmpty = false
  ne_nil : ∀ key value : Text, words[key]? = some value → key ≠ [] ∧ value ≠ []
  injective : ∀ key key' value : Text, words[key]? = some value → words[key']? = some value →
    key = key'

/-- What is wrong with a word of the table. A counterpart is a fault of a word if a word before it,
in the order of their bytes, has it too. -/
inductive Fault (words : Std.TreeMap Text Text) : Text → Error → Prop
  | emptyKey {value : Text} (mem : words[([] : Text)]? = some value) : Fault words [] .emptyKey
  | emptyValue {key : Text} (hkey : key ≠ []) (mem : words[key]? = some []) :
    Fault words key (.emptyValue key)
  | duplicateValue {key value first : Text} (hkey : key ≠ []) (hvalue : value ≠ [])
    (mem : words[key]? = some value) (first_mem : words[first]? = some value)
    (first_lt : Utf8.encode first < Utf8.encode key) :
    Fault words key (.duplicateValue value first key)

/-- The fault of the word is the first one in the order of bytes. -/
def IsFirstFault (words : Std.TreeMap Text Text) (key : Text) (error : Error) : Prop :=
  Fault words key error ∧
    ∀ key', Utf8.encode key' < Utf8.encode key → ∀ error', ¬ Fault words key' error'

theorem Fault.exists_mem {key : Text} (h : Fault words key error) :
    ∃ value, words[key]? = some value := by
  cases h with
  | emptyKey mem => exact ⟨_, mem⟩
  | emptyValue _ mem => exact ⟨_, mem⟩
  | duplicateValue _ _ mem => exact ⟨_, mem⟩

theorem faultAt_iff_fault {front back : List (Text × Text)} {key value : Text}
    (h : words.toList = front ++ (key, value) :: back) :
    FaultAt front (key, value) error ↔ Fault words key error := by
  have hmem : words[key]? = some value := by
    rw [← Std.TreeMap.mem_toList_iff_getElem?_eq_some, h]
    simp
  constructor
  · intro hf
    cases hf with
    | emptyKey => exact .emptyKey hmem
    | emptyValue hkey => exact .emptyValue hkey hmem
    | duplicateValue hkey hvalue mem =>
      obtain ⟨first_mem, first_lt⟩ := (mem_front_iff h).1 mem
      exact .duplicateValue hkey hvalue hmem first_mem first_lt
  · intro hf
    cases hf with
    | emptyKey => exact .emptyKey
    | emptyValue hkey mem =>
      rw [hmem, Option.some.injEq] at mem
      rw [mem]
      exact .emptyValue hkey
    | duplicateValue hkey hvalue mem first_mem first_lt =>
      rw [hmem, Option.some.injEq] at mem
      rw [← mem] at hvalue first_mem ⊢
      exact .duplicateValue hkey hvalue ((mem_front_iff h).2 ⟨first_mem, first_lt⟩)

/-- What is visited before a word is sound if no word before it has a fault. -/
theorem sound_front_iff {front back : List (Text × Text)} {key value : Text}
    (h : words.toList = front ++ (key, value) :: back) :
    Sound front ↔ ∀ key', Utf8.encode key' < Utf8.encode key →
      ∀ error, ¬ Fault words key' error := by
  rw [sound_iff_forall_not_faultAt]
  constructor
  · intro hs key' hlt error hf
    obtain ⟨value', hmem⟩ := hf.exists_mem
    obtain ⟨front', back', rfl⟩ := List.append_of_mem ((mem_front_iff h).2 ⟨hmem, hlt⟩)
    rw [List.append_assoc, List.cons_append] at h
    exact hs front' (key', value') back' rfl error ((faultAt_iff_fault h).2 hf)
  · rintro hn front' ⟨key', value'⟩ back' rfl error hf
    have hmem : (key', value') ∈ front' ++ (key', value') :: back' := by simp
    have hlt := ((mem_front_iff h).1 hmem).2
    rw [List.append_assoc, List.cons_append] at h
    exact hn key' hlt error ((faultAt_iff_fault h).1 hf)

theorem check_toList_eq_error_iff :
    check [] words.toList = .error error ↔ ∃ key, IsFirstFault words key error := by
  refine (check_seen_eq_error_iff sound_nil).trans ?_
  simp only [List.nil_append]
  constructor
  · rintro ⟨front, ⟨key, value⟩, back, h, hs, hf⟩
    exact ⟨key, (faultAt_iff_fault h).1 hf, (sound_front_iff h).1 hs⟩
  · rintro ⟨key, hf, hn⟩
    obtain ⟨value, hmem⟩ := hf.exists_mem
    obtain ⟨front, back, h⟩ :=
      List.append_of_mem (Std.TreeMap.mem_toList_iff_getElem?_eq_some.2 hmem)
    exact ⟨front, (key, value), back, h, (sound_front_iff h).2 hn, (faultAt_iff_fault h).2 hf⟩

theorem sound_toList_iff :
    Sound words.toList ↔
      (∀ key value : Text, words[key]? = some value → key ≠ [] ∧ value ≠ []) ∧
        ∀ key key' value : Text, words[key]? = some value → words[key']? = some value →
          key = key' := by
  simp only [← Std.TreeMap.mem_toList_iff_getElem?_eq_some]
  constructor
  · intro h
    refine ⟨fun key value hm => h.ne_nil _ hm, fun key key' value hm hm' => ?_⟩
    exact congrArg Prod.fst (List.inj_on_of_nodup_map h.nodup hm hm' rfl)
  · rintro ⟨hne, hinj⟩
    refine ⟨fun entry hm => hne _ _ hm, List.Nodup.map_on ?_ ?_⟩
    · rintro ⟨key, value⟩ hm ⟨key', value'⟩ hm' heq
      obtain rfl : value = value' := heq
      rw [hinj key key' value hm hm']
    · exact (nodup_map_fst_toList words).of_map _

theorem ofStrings_eq (words : Std.TreeMap Text Text) :
    ofStrings words =
      if words.isEmpty then .error .empty
      else (check [] words.toList).map fun _ => (Lexicon.ofPairs words.toList).sort := by
  unfold ofStrings
  split
  · rfl
  · cases check [] words.toList <;> rfl

theorem ofStrings_eq_ok_iff {lexicon : Lexicon} :
    ofStrings words = .ok lexicon ↔
      IsInvertible words ∧ lexicon = (Lexicon.ofPairs words.toList).sort := by
  have hcheck : check [] words.toList = .ok () ↔ _ :=
    (check_seen_eq_ok_iff sound_nil).trans sound_toList_iff
  rw [ofStrings_eq]
  constructor
  · intro h
    split at h
    · cases h
    · rename_i hempty
      cases hc : check [] words.toList with
      | error error =>
        rw [hc] at h
        cases h
      | ok =>
        rw [hc] at h
        obtain ⟨hne, hinj⟩ := hcheck.1 hc
        exact ⟨⟨by simpa using hempty, hne, hinj⟩, (Except.ok.inj h).symm⟩
  · rintro ⟨⟨hempty, hne, hinj⟩, rfl⟩
    have hc : check [] words.toList = .ok () := hcheck.2 ⟨hne, hinj⟩
    rw [hempty, hc]
    rfl

theorem ofStrings_eq_error_iff :
    ofStrings words = .error error ↔
      (words.isEmpty = true ∧ error = .empty) ∨ ∃ key, IsFirstFault words key error := by
  rw [ofStrings_eq, ← check_toList_eq_error_iff]
  by_cases hempty : words.isEmpty = true
  · have hnil : words.toList = [] := by
      rwa [← List.isEmpty_iff, Std.TreeMap.isEmpty_toList]
    have hok : check [] words.toList ≠ .error error := by
      rw [hnil]
      nofun
    simp [hempty, hok, eq_comm]
  · rw [if_neg hempty]
    cases check [] words.toList with
    | error error' => simp [Except.map, hempty]
    | ok => simp [Except.map, hempty]

/-- The first word that shares a counterpart with a word before it does so with one word. -/
theorem eq_of_isFirstFault {key value first other : Text}
    (h : IsFirstFault words key (.duplicateValue value first key))
    (hmem : words[other]? = some value) (hlt : Utf8.encode other < Utf8.encode key) :
    other = first := by
  obtain ⟨hf, hn⟩ := h
  cases hf with
  | duplicateValue hkey hvalue mem first_mem first_lt =>
    obtain ⟨front, back, hlist⟩ :=
      List.append_of_mem (Std.TreeMap.mem_toList_iff_getElem?_eq_some.2 mem)
    have hsound := (sound_front_iff hlist).2 hn
    have hother := (mem_front_iff hlist).2 ⟨hmem, hlt⟩
    have hfirst := (mem_front_iff hlist).2 ⟨first_mem, first_lt⟩
    exact congrArg Prod.fst (List.inj_on_of_nodup_map hsound.nodup hother hfirst rfl)

/-! ## Both directions -/

/-- The lexicon has the words of the table, the longest first, and a pattern for each of them in
both directions. -/
structure ReadsBothWays (lexicon : Lexicon) (words : Std.TreeMap Text Text) : Prop where
  longestFirst : lexicon.pairs.Pairwise fun a b => b.1.length ≤ a.1.length
  get?_eq : ∀ key, lexicon.get? key = words[key]?
  forward : ((lexicon.patterns .forward).map fun p => (p.word, p.image)).Perm words.toList
  reverse : (lexicon.patterns .reverse).Perm ((lexicon.patterns .forward).map Pattern.swap)
  length_patterns : ∀ direction, (lexicon.patterns direction).length = words.size

theorem value?_toList (words : Std.TreeMap Text Text) (key : Text) :
    History.value? words.toList key = words[key]? := by
  refine Option.ext fun value => ?_
  rw [History.value?_eq_some_iff_mem (nodup_map_fst_toList words),
    Std.TreeMap.mem_toList_iff_getElem?_eq_some]

section

variable {lexicon : Lexicon}

theorem mem_patterns_forward_iff (h : IsInvertible words) (hh : lexicon.HasHistory words.toList)
    {p : Pattern} : p ∈ lexicon.patterns .forward ↔ words[p.word]? = some p.image := by
  rw [Lexicon.mem_patterns_iff hh, History.Replaces, value?_toList]
  exact ⟨And.right, fun hp => ⟨(h.ne_nil _ _ hp).1, hp⟩⟩

/-- No word gives way to another one with the same counterpart. -/
theorem mem_patterns_reverse_iff (h : IsInvertible words) (hh : lexicon.HasHistory words.toList)
    {p : Pattern} : p ∈ lexicon.patterns .reverse ↔ words[p.image]? = some p.word := by
  rw [Lexicon.mem_patterns_iff hh, History.Replaces, value?_toList]
  refine ⟨fun hp => hp.2.1, fun hp => ⟨(h.ne_nil _ _ hp).2, hp, fun key hkey => ?_⟩⟩
  rw [value?_toList] at hkey
  rw [h.injective key p.image p.word hkey hp]

theorem nodup_patterns (h : lexicon.WellFormed) (direction : Direction) :
    (lexicon.patterns direction).Nodup :=
  (Lexicon.nodup_words_patterns h direction).of_map _

theorem perm_patterns_forward (h : IsInvertible words) (hh : lexicon.HasHistory words.toList) :
    ((lexicon.patterns .forward).map fun p => (p.word, p.image)).Perm words.toList := by
  have hinj : Function.Injective fun p : Pattern => (p.word, p.image) := by
    rintro ⟨word, image⟩ ⟨word', image'⟩ heq
    obtain ⟨rfl, rfl⟩ := Prod.mk.inj heq
    rfl
  have hn := (nodup_patterns (Lexicon.wellFormed_of_hasHistory hh) .forward).map hinj
  refine (List.perm_ext_iff_of_nodup hn ((nodup_map_fst_toList words).of_map _)).2 ?_
  rintro ⟨key, value⟩
  rw [List.mem_map, Std.TreeMap.mem_toList_iff_getElem?_eq_some]
  constructor
  · rintro ⟨p, hp, heq⟩
    obtain ⟨rfl, rfl⟩ := Prod.mk.inj heq
    exact (mem_patterns_forward_iff h hh).1 hp
  · exact fun hm => ⟨⟨key, value⟩, (mem_patterns_forward_iff h hh).2 hm, rfl⟩

theorem perm_patterns_reverse (h : IsInvertible words) (hh : lexicon.HasHistory words.toList) :
    (lexicon.patterns .reverse).Perm ((lexicon.patterns .forward).map Pattern.swap) := by
  have hw := Lexicon.wellFormed_of_hasHistory hh
  have hswap : Function.Involutive Pattern.swap := fun _ => rfl
  have hn := (nodup_patterns hw .forward).map hswap.injective
  refine (List.perm_ext_iff_of_nodup (nodup_patterns hw .reverse) hn).2 fun p => ?_
  rw [mem_patterns_reverse_iff h hh, List.mem_map]
  constructor
  · exact fun hm => ⟨p.swap, (mem_patterns_forward_iff h hh).2 hm, rfl⟩
  · rintro ⟨q, hq, rfl⟩
    exact (mem_patterns_forward_iff h hh).1 hq

end

theorem readsBothWays_of_isInvertible (h : IsInvertible words) :
    ReadsBothWays (Lexicon.ofPairs words.toList).sort words := by
  have hh := (Lexicon.HasHistory.ofPairs words.toList).sort
  have hforward := perm_patterns_forward h hh
  have hreverse := perm_patterns_reverse h hh
  have hlength : ((Lexicon.ofPairs words.toList).sort.patterns .forward).length = words.size := by
    rw [← Std.TreeMap.length_toList, ← hforward.length_eq, List.length_map]
  refine ⟨?_, fun key => ?_, hforward, hreverse, fun direction => ?_⟩
  · exact List.pairwise_map.2 (Lexicon.isSorted_iff.1 (Lexicon.isSorted_sort _))
  · rw [Lexicon.get?_eq_value? hh, value?_toList]
  · cases direction with
    | forward => exact hlength
    | reverse => rw [hreverse.length_eq, List.length_map, hlength]

theorem parse_of_strings {document : Text} (h : strings document = .ok words) :
    parse document = ofStrings words := by
  rw [parse, h]
  rfl

/-- A table of words is a name table exactly if it is not empty, nothing in it is empty, and no two
words share a counterpart. Else it is reported that the table is empty, or what is wrong with the
first of its words that has a fault, in the order of their bytes; if that shares its counterpart,
then with one word before it. A name table has the words of the table, the longest first, and
loses none of them in either direction. -/
theorem ofStrings_eq_ok_iff_isInvertible (words : Std.TreeMap Text Text) :
    (∀ document, strings document = .ok words → parse document = ofStrings words) ∧
      ((∃ lexicon, ofStrings words = .ok lexicon) ↔ IsInvertible words) ∧
      (∀ error, ofStrings words = .error error ↔
        (words.isEmpty = true ∧ error = .empty) ∨ ∃ key, IsFirstFault words key error) ∧
      (∀ key value first, IsFirstFault words key (.duplicateValue value first key) →
        ∀ other, words[other]? = some value → Utf8.encode other < Utf8.encode key →
          other = first) ∧
      ∀ lexicon, ofStrings words = .ok lexicon → ReadsBothWays lexicon words := by
  refine ⟨fun _ h => parse_of_strings h, ?_, fun _ => ofStrings_eq_error_iff,
    fun _ _ _ h _ => eq_of_isFirstFault h, fun lexicon h => ?_⟩
  · constructor
    · rintro ⟨lexicon, h⟩
      exact (ofStrings_eq_ok_iff.1 h).1
    · exact fun h => ⟨_, ofStrings_eq_ok_iff.2 ⟨h, rfl⟩⟩
  · obtain ⟨hi, rfl⟩ := ofStrings_eq_ok_iff.1 h
    exact readsBothWays_of_isInvertible hi

/-- Two words share a counterpart, of which the one that comes first in the document is the last in
the order of bytes. Without it, the table can be read both ways. -/
theorem parse_eq_error_of_shared_counterpart :
    let words : Std.TreeMap Text Text := .ofList [("b".toList, "x".toList),
      ("ab".toList, "x".toList), ("a".toList, "y".toList)]
    parse "[names]\nb = \"x\"\nab = \"x\"\na = \"y\"\n".toList =
        .error (.duplicateValue "x".toList "ab".toList "b".toList) ∧
      ¬ IsInvertible words ∧
      (∃ key, IsFirstFault words key (.duplicateValue "x".toList "ab".toList "b".toList)) ∧
      ∃ lexicon, ofStrings (words.erase "b".toList) = .ok lexicon ∧
        ReadsBothWays lexicon (words.erase "b".toList) := by
  intro words
  obtain ⟨hparse, hok, herror, -, -⟩ := ofStrings_eq_ok_iff_isInvertible words
  obtain ⟨-, -, -, -, hreads⟩ := ofStrings_eq_ok_iff_isInvertible (words.erase "b".toList)
  have he : ofStrings words = .error (.duplicateValue "x".toList "ab".toList "b".toList) := rfl
  refine ⟨(hparse _ rfl).trans he, fun hi => ?_, ((herror _).1 he).resolve_left ?_,
    _, rfl, hreads _ rfl⟩
  · obtain ⟨lexicon, hl⟩ := hok.2 hi
    rw [he] at hl
    cases hl
  · rintro ⟨-, heq⟩
    cases heq

end NameTable

end Wordbridge
