import Wordbridge.Proofs.Lexicon.Sorting
import Wordbridge.Proofs.Meaning

/-!
# Layers of layers

To merge a lexicon into another is to add its history to that of the other, so
layers may be grouped in any way, and a layer without words adds nothing. The
groupings leave the entries in different places and with different ranks, but
they have one history, and what is replaced depends on that alone:

* `substitute_merge_assoc`, `substitute_merge_empty`, `substitute_empty_merge`.

Merging the same lexicon again writes each of its words where it stands. All
its entries get new ranks, in the order that they had before, so that nothing
changes which can be read from the lexicon:

* `History.latest_append_append_self`: the last writes are the same, in the
  same order;
* `pairs_merge_merge_self`, `patterns_merge_merge_self`: so are the entries and
  the patterns, one by one.
-/

namespace Wordbridge

namespace History

theorem fst_mem_of_mem_latest {history : History} {write : Text × Text}
    (h : write ∈ history.latest) : write.1 ∈ history.map Prod.fst :=
  List.mem_map_of_mem (mem_of_value? (mem_latest_iff.1 h))

/-- After more writes, those of other words are left, and then come the last of the new ones. -/
theorem foldl_overwrite_eq_append (start writes : History) :
    writes.foldl overwrite start =
      start.filter (fun w => w.1 ∉ writes.map Prod.fst) ++ writes.latest := by
  induction writes using List.reverseRecOn with
  | nil =>
    have hall : start.filter (fun w => w.1 ∉ List.map Prod.fst ([] : History)) = start :=
      List.filter_eq_self.2 fun w _ => by simp
    rw [hall, List.foldl_nil]
    exact (List.append_nil start).symm
  | append_singleton writes write ih =>
    have hfilter :
        (start.filter fun w => w.1 ∉ writes.map Prod.fst).filter (fun w => w.1 ≠ write.1) =
          start.filter fun w => w.1 ∉ (writes ++ [write]).map Prod.fst := by
      rw [List.filter_filter]
      refine List.filter_congr fun w _ => ?_
      rw [Bool.eq_iff_iff, List.map_append, List.map_singleton]
      simp [and_comm]
    rw [List.foldl_append, ih, List.foldl_cons, List.foldl_nil, overwrite, List.filter_append,
      hfilter, List.append_assoc, latest_append_singleton, overwrite]

/-- Making the same writes again changes nothing. -/
theorem latest_append_append_self (history writes : History) :
    latest (history ++ writes ++ writes) = latest (history ++ writes) := by
  have hnone : writes.latest.filter (fun w => w.1 ∉ writes.map Prod.fst) = [] :=
    List.filter_eq_nil_iff.2 fun w hw => by simpa using fst_mem_of_mem_latest hw
  rw [latest_append, latest_append, foldl_overwrite_eq_append _ writes,
    foldl_overwrite_eq_append _ writes, List.filter_append, hnone, List.append_nil,
    List.filter_filter]
  simp only [Bool.and_self]

end History

namespace Lexicon

/-! ## Writing words that are there -/

section

variable {lexicon other : Lexicon}

/-- Words that are there are all written in their places. -/
theorem map_key_insertAll (h : lexicon.WellFormed) {words : List (Text × Text)}
    (hm : ∀ w ∈ words, w.1 ∈ lexicon.entries.toList.map Entry.key) :
    (lexicon.insertAll words).entries.toList.map Entry.key =
      lexicon.entries.toList.map Entry.key := by
  induction words generalizing lexicon with
  | nil => rfl
  | cons word words ih =>
    have hkeys : (lexicon.insert word.1 word.2).entries.toList.map Entry.key =
        lexicon.entries.toList.map Entry.key := by
      rw [map_key_insert h, if_pos (hm word (List.mem_cons_self ..))]
    rw [insertAll_cons, ih (wellFormed_insert h word.1 word.2), hkeys]
    intro w hw
    rw [hkeys]
    exact hm w (List.mem_cons_of_mem _ hw)

/-- The words in order, with their counterparts, make up the list of pairs. -/
theorem pairs_eq_map_get? (h : lexicon.WellFormed) :
    lexicon.pairs =
      (lexicon.entries.toList.map Entry.key).map fun key => (key, (lexicon.get? key).getD []) := by
  rw [List.map_map]
  refine List.map_congr_left fun e he => ?_
  have hvalue : lexicon.get? e.key = some e.value := (get?_eq_some_iff h).2 ⟨e, he, rfl, rfl⟩
  rw [Function.comp_apply, hvalue, Option.getD_some]

theorem pairs_congr (h : lexicon.WellFormed) (h' : other.WellFormed)
    (hkeys : lexicon.entries.toList.map Entry.key = other.entries.toList.map Entry.key)
    (hget : ∀ key, lexicon.get? key = other.get? key) : lexicon.pairs = other.pairs := by
  rw [pairs_eq_map_get? h, pairs_eq_map_get? h', hkeys]
  simp only [hget]

end

/-! ## The patterns, one by one -/

variable {lexicon other : Lexicon} {history history' : History}

/-- What is replaced in reverse, in the order of the entries. -/
theorem replacements_reverse_eq (h : lexicon.HasHistory history) :
    lexicon.replacements .reverse =
      (lexicon.pairs.filter fun w =>
        History.value? (history.latest.map Prod.swap) w.2 = some w.1).map
          fun w => ⟨w.2, w.1⟩ := by
  rw [replacements, pairs, List.filter_map, List.map_map]
  refine congrArg (List.map _) (List.filter_congr fun e he => ?_)
  rw [Bool.eq_iff_iff, isLatest_iff_replaces h he, Function.comp_apply, decide_eq_true_eq,
    History.value?_latest_swap_iff]

/-- Lexicons with the same entries, apart from their ranks, have the same patterns if their words
were last written in the same order. -/
theorem patterns_congr (h : lexicon.HasHistory history) (h' : other.HasHistory history')
    (hpairs : lexicon.pairs = other.pairs) (hlatest : history.latest = history'.latest)
    (direction : Direction) : lexicon.patterns direction = other.patterns direction := by
  have hreplace : lexicon.replacements direction = other.replacements direction := by
    cases direction with
    | forward =>
      have hmap : ∀ l : Lexicon, l.replacements .forward = l.pairs.map fun w => ⟨w.1, w.2⟩ := by
        intro l
        rw [replacements, pairs, List.map_map]
        rfl
      rw [hmap, hmap, hpairs]
    | reverse => rw [replacements_reverse_eq h, replacements_reverse_eq h', hpairs, hlatest]
  rw [patterns, patterns, hreplace]

/-! ## Merging -/

variable {lower middle upper : Lexicon} {history'' : History}

theorem substitute_merge_assoc (h : lower.HasHistory history) (h' : middle.HasHistory history')
    (h'' : upper.HasHistory history'') (direction : Direction) (text : Text) :
    ((lower.merge middle).merge upper).substitute direction text =
      (lower.merge (middle.merge upper)).substitute direction text := by
  have hleft := (h.merge h').merge h''
  have hright := h.merge (h'.merge h'')
  rw [← List.append_assoc] at hright
  exact substitute_eq_of_hasHistory hleft hright direction text

theorem substitute_merge_empty (h : lexicon.HasHistory history) (direction : Direction)
    (text : Text) : (lexicon.merge empty).substitute direction text =
      lexicon.substitute direction text := by
  have hmerge := h.merge .empty
  rw [List.append_nil] at hmerge
  exact substitute_eq_of_hasHistory hmerge h direction text

theorem substitute_empty_merge (h : lexicon.HasHistory history) (direction : Direction)
    (text : Text) : (empty.merge lexicon).substitute direction text =
      lexicon.substitute direction text :=
  substitute_eq_of_hasHistory (HasHistory.empty.merge h) h direction text

/-- What is merged again is written in place, each word with the counterpart that it has. -/
theorem pairs_merge_merge_self (h : lower.HasHistory history) (h' : upper.HasHistory history') :
    ((lower.merge upper).merge upper).pairs = (lower.merge upper).pairs := by
  have honce := h.merge h'
  have htwice := honce.merge h'
  have hw := wellFormed_of_hasHistory honce
  refine pairs_congr (wellFormed_of_hasHistory htwice) hw ?_ fun key => ?_
  · show ((lower.merge upper).insertAll upper.writes).entries.toList.map Entry.key = _
    refine map_key_insertAll hw fun write hmem => ?_
    rw [writes_of_hasHistory h'] at hmem
    have hvalue := History.mem_latest_iff.1 hmem
    have hget : (lower.merge upper).get? write.1 = some write.2 := by
      rw [get?_eq_value? honce, History.value?_append, hvalue, Option.some_or]
    obtain ⟨e, he, hkey, -⟩ := (get?_eq_some_iff hw).1 hget
    exact hkey ▸ List.mem_map_of_mem he
  · refine Option.ext fun value => ?_
    rw [get?_eq_value? htwice, get?_eq_value? honce, ← History.mem_latest_iff,
      History.latest_append_append_self, History.mem_latest_iff]

theorem patterns_merge_merge_self (h : lower.HasHistory history) (h' : upper.HasHistory history')
    (direction : Direction) :
    ((lower.merge upper).merge upper).patterns direction =
      (lower.merge upper).patterns direction :=
  patterns_congr ((h.merge h').merge h') (h.merge h') (pairs_merge_merge_self h h')
    (History.latest_append_append_self history history') direction

/-- Layers replace the same words however they are grouped, and a layer without words changes
nothing, above or below the others. To merge a lexicon again gives the same words with the same
counterparts in the same order, and the same patterns in each direction. -/
theorem merge_assoc_and_merge_merge_self (h : lower.HasHistory history)
    (h' : middle.HasHistory history') (h'' : upper.HasHistory history'') :
    (∀ direction text, ((lower.merge middle).merge upper).substitute direction text =
        (lower.merge (middle.merge upper)).substitute direction text) ∧
      (∀ direction text,
        (lower.merge empty).substitute direction text = lower.substitute direction text) ∧
      (∀ direction text,
        (empty.merge lower).substitute direction text = lower.substitute direction text) ∧
      ((lower.merge middle).merge middle).pairs = (lower.merge middle).pairs ∧
      ∀ direction, ((lower.merge middle).merge middle).patterns direction =
        (lower.merge middle).patterns direction :=
  ⟨substitute_merge_assoc h h' h'', substitute_merge_empty h, substitute_empty_merge h,
    pairs_merge_merge_self h h', patterns_merge_merge_self h h'⟩

/-- Three layers that share counterparts. Grouped in two ways, their words stand in different
orders, and merging the second layer again changes ranks. -/
theorem merge_assoc_of_shared_counterparts :
    let lower := ofPairs [("do".toList, "x".toList), ("as".toList, "y".toList)]
    let middle := (ofPairs [("open".toList, "x".toList), ("by".toList, "y".toList)]).sort
    let upper := ofPairs [("open".toList, "y".toList)]
    ((lower.merge middle).merge upper).pairs ≠ (lower.merge (middle.merge upper)).pairs ∧
      ((lower.merge middle).merge upper).substitute .reverse "y x".toList =
        (lower.merge (middle.merge upper)).substitute .reverse "y x".toList ∧
      (lower.merge (middle.merge upper)).substitute .reverse "y x".toList = "open do".toList ∧
      ((lower.merge middle).merge middle).entries ≠ (lower.merge middle).entries ∧
      ((lower.merge middle).merge middle).patterns .reverse =
        (lower.merge middle).patterns .reverse := by
  intro lower middle upper
  obtain ⟨hassoc, -, -, -, hpatterns⟩ := merge_assoc_and_merge_merge_self
    (HasHistory.ofPairs [("do".toList, "x".toList), ("as".toList, "y".toList)])
    (HasHistory.ofPairs [("open".toList, "x".toList), ("by".toList, "y".toList)]).sort
    (HasHistory.ofPairs [("open".toList, "y".toList)])
  exact ⟨by decide +kernel, hassoc _ _, by decide +kernel, by decide +kernel, hpatterns _⟩

end Lexicon

end Wordbridge
