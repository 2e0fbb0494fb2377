import Wordbridge.Proofs.Lexicon.History

/-!
# The index of a lexicon

However a lexicon came about, its index finds each word where its entry is, so
that all ways to read the lexicon agree:

* `getElem?_index_eq_some_iff`: a position in the index is one of an entry,
  and that entry is of the word looked up;
* `contains_eq_isSome_get?`, `get?_eq_some_iff_mem_pairs`: what is looked up is
  what is listed;
* `size_index`: the index has no other words.
-/

namespace Wordbridge

namespace Lexicon

variable {lexicon : Lexicon}

/-- The words of the list of pairs are those of the entries. -/
theorem map_fst_pairs (lexicon : Lexicon) :
    lexicon.pairs.map Prod.fst = lexicon.entries.toList.map Entry.key := by
  rw [pairs, List.map_map]
  rfl

theorem length_pairs (lexicon : Lexicon) : lexicon.pairs.length = lexicon.size := by
  rw [pairs, List.length_map, Array.length_toList, size]

/-- The index leads to the entry of the word, and never beyond the entries. -/
theorem getElem?_index_eq_some_iff (h : lexicon.WellFormed) {key : Text} {position : Nat} :
    lexicon.index[key]? = some position ↔
      ∃ hlt : position < lexicon.entries.size, lexicon.entries[position].key = key := by
  rw [h.indexes key position, List.getElem?_map, Array.getElem?_toList, Option.map_eq_some_iff]
  constructor
  · rintro ⟨e, he, rfl⟩
    obtain ⟨hlt, hget⟩ := Array.getElem?_eq_some_iff.1 he
    exact ⟨hlt, congrArg Entry.key hget⟩
  · rintro ⟨hlt, hkey⟩
    exact ⟨lexicon.entries[position], Array.getElem?_eq_getElem hlt, hkey⟩

theorem mem_index_iff (h : lexicon.WellFormed) {key : Text} :
    key ∈ lexicon.index ↔ key ∈ lexicon.pairs.map Prod.fst := by
  rw [Std.TreeMap.mem_iff_isSome_getElem?, Option.isSome_iff_exists, map_fst_pairs,
    List.mem_iff_getElem?]
  exact exists_congr fun position => h.indexes key position

/-- The index has as many words as there are entries. -/
theorem size_index (h : lexicon.WellFormed) : lexicon.index.size = lexicon.size := by
  have hn : (lexicon.pairs.map Prod.fst).Nodup := by
    rw [map_fst_pairs]
    exact h.keys_nodup
  have hp : lexicon.index.keys.Perm (lexicon.pairs.map Prod.fst) :=
    (List.perm_ext_iff_of_nodup Std.TreeMap.nodup_keys hn).2 fun key =>
      Std.TreeMap.mem_keys.trans (mem_index_iff h)
  rw [← Std.TreeMap.length_keys, hp.length_eq, List.length_map, length_pairs]

theorem contains_iff_mem_pairs (h : lexicon.WellFormed) {key : Text} :
    lexicon.contains key = true ↔ key ∈ lexicon.pairs.map Prod.fst :=
  Std.TreeMap.contains_iff_mem.trans (mem_index_iff h)

theorem get?_eq_some_iff_mem_pairs (h : lexicon.WellFormed) {key value : Text} :
    lexicon.get? key = some value ↔ (key, value) ∈ lexicon.pairs := by
  rw [get?_eq_some_iff h, pairs, List.mem_map]
  refine exists_congr fun e => and_congr_right fun _ => ?_
  rw [Prod.mk.injEq]

/-- A lexicon has a word exactly if the word has a counterpart. -/
theorem contains_eq_isSome_get? (h : lexicon.WellFormed) (key : Text) :
    lexicon.contains key = (lexicon.get? key).isSome := by
  rw [Bool.eq_iff_iff, contains_iff_mem_pairs h, Option.isSome_iff_exists, List.mem_map]
  constructor
  · rintro ⟨⟨_, value⟩, hm, rfl⟩
    exact ⟨value, (get?_eq_some_iff_mem_pairs h).2 hm⟩
  · rintro ⟨value, hv⟩
    exact ⟨(key, value), (get?_eq_some_iff_mem_pairs h).1 hv, rfl⟩

/-- However a lexicon came about, no word has two entries. The index has the words of the entries
and no others, each at the position of its entry, so that looking a word up, listing the words and
counting them agree. No two entries have one rank, and the next write has a greater rank than any
of them, but none that there was no write for. -/
theorem index_and_ranks_of_hasHistory {history : History} (h : lexicon.HasHistory history) :
    (lexicon.entries.toList.map Entry.key).Nodup ∧
      (∀ key position, lexicon.index[key]? = some position ↔
        ∃ hlt : position < lexicon.entries.size, lexicon.entries[position].key = key) ∧
      lexicon.index.size = lexicon.size ∧ lexicon.pairs.length = lexicon.size ∧
      (∀ key value, lexicon.get? key = some value ↔ (key, value) ∈ lexicon.pairs) ∧
      (∀ key, lexicon.contains key = true ↔ key ∈ lexicon.pairs.map Prod.fst) ∧
      (∀ key, lexicon.contains key = (lexicon.get? key).isSome) ∧
      (lexicon.entries.toList.map Entry.rank).Nodup ∧
      (∀ e ∈ lexicon.entries.toList, e.rank < lexicon.nextRank) ∧
      lexicon.nextRank ≤ history.length := by
  have hw := wellFormed_of_hasHistory h
  exact ⟨hw.keys_nodup, fun _ _ => getElem?_index_eq_some_iff hw, size_index hw,
    length_pairs lexicon, fun _ _ => get?_eq_some_iff_mem_pairs hw,
    fun _ => contains_iff_mem_pairs hw, contains_eq_isSome_get? hw, hw.ranks_nodup, hw.rank_lt,
    nextRank_le_length h⟩

/-- A word that moved when the lexicon was sorted, and was written again after that. -/
theorem index_and_ranks_of_sorted_and_merged :
    let lexicon := ((ofPairs [("do".toList, "x".toList), ("begin".toList, "y".toList)]).sort.insert
      "do".toList "z".toList).merge (ofPairs [("begin".toList, "z".toList)])
    (∃ hlt : 1 < lexicon.entries.size, lexicon.entries[1].key = "do".toList) ∧
      ("do".toList, "z".toList) ∈ lexicon.pairs ∧ lexicon.index.size = 2 ∧
      (lexicon.entries.toList.map Entry.rank).Nodup := by
  intro lexicon
  obtain ⟨-, hindex, hsize, -, hget, -, -, hranks, -, -⟩ := index_and_ranks_of_hasHistory
    (((HasHistory.ofPairs [("do".toList, "x".toList), ("begin".toList, "y".toList)]).sort.insert
      "do".toList "z".toList).merge (.ofPairs [("begin".toList, "z".toList)]))
  have hposition : lexicon.index["do".toList]? = some 1 := by decide +kernel
  have hvalue : lexicon.get? "do".toList = some "z".toList := by decide +kernel
  have htwo : lexicon.size = 2 := by decide +kernel
  exact ⟨(hindex _ _).1 hposition, (hget _ _).1 hvalue, hsize.trans htwo, hranks⟩

end Lexicon

end Wordbridge
