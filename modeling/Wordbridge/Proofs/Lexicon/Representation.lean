import Mathlib.Data.List.Induction
import Mathlib.Data.List.Nodup
import Wordbridge.Lexicon
import Wordbridge.Proofs.StableSort

/-!
# The representation of lexicons

The operations on lexicons keep the index and the ranks in step with the
entries (`WellFormed`). Then a lexicon can be read off its entries alone:

* `get?_eq_some_iff`: the counterpart of a word is that of its entry;
* `entries_insert_perm`: a write puts a new entry in the place of the old one
  of its word;
* `byRank_eq_of_perm`: there is one order of the entries by rank.
-/

namespace Wordbridge

namespace Lexicon

/-- The index gives the position of each of the words, and no other word has one. -/
def Indexes (index : Std.TreeMap Text Nat) (keys : List Text) : Prop :=
  ∀ (key : Text) (position : Nat), index[key]? = some position ↔ keys[position]? = some key

namespace Indexes

variable {index : Std.TreeMap Text Nat} {keys : List Text}

theorem empty : Indexes ∅ [] := fun key position => by simp

/-- Indexed words differ from each other. -/
theorem nodup (h : Indexes index keys) : keys.Nodup := by
  refine List.nodup_iff_getElem?_ne_getElem?.2 fun i j hij hj heq => ?_
  have hk : keys[j]? = some keys[j] := List.getElem?_eq_getElem hj
  have hi := (h keys[j] i).2 (heq.trans hk)
  rw [(h keys[j] j).2 hk, Option.some.injEq] at hi
  omega

/-- A word without a position is none of the indexed ones. -/
theorem not_mem (h : Indexes index keys) {key : Text} (hk : index[key]? = none) : key ∉ keys := by
  intro hm
  obtain ⟨position, hp⟩ := List.mem_iff_getElem?.1 hm
  rw [(h key position).2 hp] at hk
  cases hk

/-- A new word gets the position behind the others. -/
theorem append (h : Indexes index keys) {key : Text} (hk : key ∉ keys) :
    Indexes (index.insert key keys.length) (keys ++ [key]) := by
  intro other position
  rw [Std.TreeMap.getElem?_insert]
  by_cases ho : key = other
  · subst ho
    have hlt : position < keys.length → keys[position]? ≠ some key := fun _ he =>
      hk (List.mem_of_getElem? he)
    rw [if_pos Std.ReflCmp.compare_self, Option.some.injEq, List.getElem?_append]
    split
    · rename_i hp
      exact ⟨fun he => absurd he (by omega), fun he => absurd he (hlt hp)⟩
    · rename_i hp
      rw [List.getElem?_singleton]
      split
      · simp only [iff_true]; omega
      · simp only [reduceCtorEq, iff_false]; omega
  · rw [if_neg (fun he => ho (Std.LawfulEqCmp.eq_of_compare he)), h, List.getElem?_append]
    split
    · rfl
    · rename_i hp
      rw [List.getElem?_eq_none (by omega), List.getElem?_singleton]
      split
      · simp [ho]
      · rfl

end Indexes

/-- The index built from entries with different words. -/
theorem indexes_indexOf {entries : List Entry} (h : (entries.map Entry.key).Nodup) :
    Indexes (indexOf entries) (entries.map Entry.key) := by
  induction entries using List.reverseRecOn with
  | nil => exact Indexes.empty
  | append_singleton entries e ih =>
    rw [List.map_append, List.map_singleton] at h ⊢
    have hk := List.nodup_append.1 h
    have hm : e.key ∉ entries.map Entry.key := fun hm =>
      hk.2.2 e.key hm e.key (List.mem_singleton_self _) rfl
    have hi := (ih hk.1).append hm
    rw [List.length_map] at hi
    simpa [indexOf, List.zipIdx_append] using hi

/-- The index and the ranks of a lexicon say what its entries say. -/
structure WellFormed (lexicon : Lexicon) : Prop where
  indexes : Indexes lexicon.index (lexicon.entries.toList.map Entry.key)
  ranks_nodup : (lexicon.entries.toList.map Entry.rank).Nodup
  rank_lt : ∀ e ∈ lexicon.entries.toList, e.rank < lexicon.nextRank

namespace WellFormed

variable {lexicon : Lexicon}

theorem keys_nodup (h : lexicon.WellFormed) : (lexicon.entries.toList.map Entry.key).Nodup :=
  h.indexes.nodup

theorem eq_of_rank_eq (h : lexicon.WellFormed) {e e' : Entry} (he : e ∈ lexicon.entries.toList)
    (he' : e' ∈ lexicon.entries.toList) (hr : e.rank = e'.rank) : e = e' :=
  List.inj_on_of_nodup_map h.ranks_nodup he he' hr

end WellFormed

/-- The counterpart of a word is that of its entry. -/
theorem get?_eq_some_iff {lexicon : Lexicon} (h : lexicon.WellFormed) {key value : Text} :
    lexicon.get? key = some value ↔
      ∃ e ∈ lexicon.entries.toList, e.key = key ∧ e.value = value := by
  simp only [get?, Option.bind_eq_some_iff, Option.map_eq_some_iff]
  constructor
  · rintro ⟨position, hp, e, he, rfl⟩
    have hk := (h.indexes key position).1 hp
    rw [List.getElem?_map, Array.getElem?_toList, he, Option.map_some, Option.some.injEq] at hk
    exact ⟨e, List.mem_of_getElem? (by rw [Array.getElem?_toList]; exact he), hk, rfl⟩
  · rintro ⟨e, he, rfl, rfl⟩
    obtain ⟨position, hp⟩ := List.mem_iff_getElem?.1 he
    refine ⟨position, (h.indexes e.key position).2 ?_, e, ?_, rfl⟩
    · rw [List.getElem?_map, hp, Option.map_some]
    · rw [← Array.getElem?_toList, hp]

/-! ## The order of writes -/

/-- The entries in the order of their ranks, from any list of them in that order. -/
theorem byRank_eq_of_perm {lexicon : Lexicon} {entries : List Entry}
    (hp : entries.Perm lexicon.entries.toList) (hs : entries.Pairwise (·.rank < ·.rank)) :
    lexicon.byRank = entries := by
  have hr : (entries.map Entry.rank).Nodup := List.pairwise_map.2 (hs.imp Nat.ne_of_lt)
  refine stableSort_eq_of_perm (r := fun a b : Entry => a.rank ≤ b.rank)
    (fun _ _ => Nat.le_total _ _) Nat.le_trans hp (hs.imp Nat.le_of_lt)
    fun a ha b hb hab hba => ?_
  exact List.inj_on_of_nodup_map hr (hp.mem_iff.2 ha) (hp.mem_iff.2 hb) (Nat.le_antisymm hab hba)

theorem byRank_perm (lexicon : Lexicon) : lexicon.byRank.Perm lexicon.entries.toList :=
  stableSort_perm _ _

theorem mem_byRank {lexicon : Lexicon} {e : Entry} :
    e ∈ lexicon.byRank ↔ e ∈ lexicon.entries.toList :=
  lexicon.byRank_perm.mem_iff

theorem pairwise_byRank {lexicon : Lexicon} (h : lexicon.WellFormed) :
    lexicon.byRank.Pairwise (·.rank < ·.rank) := by
  have hle : lexicon.byRank.Pairwise (·.rank ≤ ·.rank) :=
    pairwise_stableSort (r := fun a b : Entry => a.rank ≤ b.rank)
      (fun _ _ => Nat.le_total _ _) Nat.le_trans _
  have hne : lexicon.byRank.Pairwise (·.rank ≠ ·.rank) :=
    List.pairwise_map.1 ((lexicon.byRank_perm.map Entry.rank).nodup_iff.2 h.ranks_nodup)
  exact (hle.and hne).imp fun ⟨h, hn⟩ => Nat.lt_of_le_of_ne h hn

/-! ## What the operations keep -/

theorem wellFormed_empty : empty.WellFormed where
  indexes := Indexes.empty
  ranks_nodup := List.nodup_nil
  rank_lt := by simp [empty]

/-- Words differ, so that one entry goes with a word. -/
theorem filter_key_ne_of_nodup {front back : List Entry} {e : Entry}
    (h : ((front ++ e :: back).map Entry.key).Nodup) :
    (front ++ e :: back).filter (fun e' => e'.key ≠ e.key) = front ++ back := by
  rw [List.map_append, List.map_cons, List.nodup_middle, ← List.map_append, List.nodup_cons] at h
  have hne : ∀ e' ∈ front ++ back, e'.key ≠ e.key := fun e' he' heq =>
    h.1 (heq ▸ List.mem_map_of_mem he')
  rw [List.filter_append, List.filter_cons_of_neg (by simp), ← List.filter_append,
    List.filter_eq_self.2 (fun e' he' => by simpa using hne e' he')]

/-- A write changes no word but the one it writes, and leaves one entry of that. -/
theorem entries_insert_perm {lexicon : Lexicon} (h : lexicon.WellFormed) (key value : Text) :
    (lexicon.insert key value).entries.toList.Perm
      (lexicon.entries.toList.filter (fun e => e.key ≠ key) ++
        [⟨key, value, lexicon.nextRank⟩]) := by
  unfold insert
  split
  · rename_i position hp
    have hk := (h.indexes key position).1 hp
    rw [List.getElem?_map, Option.map_eq_some_iff] at hk
    obtain ⟨e, he, rfl⟩ := hk
    obtain ⟨hlt, hget⟩ := List.getElem?_eq_some_iff.1 he
    have hsplit := List.take_append_drop position lexicon.entries.toList
    rw [← List.getElem_cons_drop hlt, hget] at hsplit
    have hfilter := filter_key_ne_of_nodup (hsplit ▸ h.keys_nodup)
    rw [hsplit] at hfilter
    rw [Array.toList_modify, List.modify_eq_take_cons_drop hlt, hget, hfilter]
    exact List.perm_middle.trans (List.perm_append_singleton _ _).symm
  · rename_i hp
    have hk := h.indexes.not_mem hp
    rw [Array.toList_push, List.filter_eq_self.2]
    intro e he
    have hne : e.key ≠ key := fun heq => hk (heq ▸ List.mem_map_of_mem he)
    simpa using hne

theorem nextRank_insert (lexicon : Lexicon) (key value : Text) :
    (lexicon.insert key value).nextRank = lexicon.nextRank + 1 := by
  unfold insert
  split <;> rfl

/-- A word that is written again keeps its place. -/
theorem map_key_modify (entries : List Entry) (position : Nat) (value : Text) (rank : Nat) :
    (entries.modify position fun e => { e with value := value, rank := rank }).map Entry.key =
      entries.map Entry.key := by
  refine List.ext_getElem? fun i => ?_
  rw [List.getElem?_map, List.getElem?_map, List.getElem?_modify]
  cases entries[i]? with
  | none => rfl
  | some e =>
    simp only [Option.map_eq_map, Option.map_some]
    split <;> rfl

theorem indexes_insert {lexicon : Lexicon} (h : lexicon.WellFormed) (key value : Text) :
    Indexes (lexicon.insert key value).index
      ((lexicon.insert key value).entries.toList.map Entry.key) := by
  unfold insert
  split
  · rw [Array.toList_modify, map_key_modify]
    exact h.indexes
  · rename_i hp
    have hi := h.indexes.append (h.indexes.not_mem hp)
    rw [List.length_map, Array.length_toList] at hi
    rw [Array.toList_push, List.map_append]
    exact hi

theorem wellFormed_insert {lexicon : Lexicon} (h : lexicon.WellFormed) (key value : Text) :
    (lexicon.insert key value).WellFormed where
  indexes := indexes_insert h key value
  ranks_nodup := by
    rw [((entries_insert_perm h key value).map Entry.rank).nodup_iff, List.map_append,
      List.map_singleton, List.nodup_append]
    refine ⟨h.ranks_nodup.sublist (List.filter_sublist.map _), List.nodup_singleton _, ?_⟩
    intro rank hr rank' hr'
    obtain ⟨e, he, rfl⟩ := List.mem_map.1 hr
    rw [List.mem_singleton.1 hr']
    exact Nat.ne_of_lt (h.rank_lt e (List.mem_filter.1 he).1)
  rank_lt := by
    intro e he
    rw [nextRank_insert]
    rcases List.mem_append.1 ((entries_insert_perm h key value).mem_iff.1 he) with he | he
    · exact Nat.lt_succ_of_lt (h.rank_lt e (List.mem_filter.1 he).1)
    · rw [List.mem_singleton.1 he]
      exact Nat.lt_succ_self _

theorem insertAll_cons (lexicon : Lexicon) (word : Text × Text) (words : List (Text × Text)) :
    lexicon.insertAll (word :: words) = (lexicon.insert word.1 word.2).insertAll words :=
  rfl

theorem wellFormed_insertAll {lexicon : Lexicon} (h : lexicon.WellFormed)
    (words : List (Text × Text)) : (lexicon.insertAll words).WellFormed := by
  induction words generalizing lexicon with
  | nil => exact h
  | cons word words ih =>
    rw [insertAll_cons]
    exact ih (wellFormed_insert h word.1 word.2)

theorem entries_sort_perm (lexicon : Lexicon) :
    lexicon.sort.entries.toList.Perm lexicon.entries.toList :=
  stableSort_perm _ _

theorem wellFormed_sort {lexicon : Lexicon} (h : lexicon.WellFormed) : lexicon.sort.WellFormed where
  indexes :=
    indexes_indexOf (((entries_sort_perm lexicon).map Entry.key).nodup_iff.2 h.keys_nodup)
  ranks_nodup := ((entries_sort_perm lexicon).map Entry.rank).nodup_iff.2 h.ranks_nodup
  rank_lt e he := h.rank_lt e ((entries_sort_perm lexicon).mem_iff.1 he)

/-! ## The longest words first -/

theorem all_zip_drop_one_iff (lengths : List Nat) :
    ((lengths.zip (lengths.drop 1)).all fun (a, b) => decide (b ≤ a)) = true ↔
      lengths.IsChain (· ≥ ·) := by
  induction lengths with
  | nil => simp
  | cons a lengths ih =>
    cases lengths with
    | nil => simp
    | cons b lengths =>
      rw [List.isChain_cons_cons, ← ih]
      simp

/-- To compare neighbours is to compare all words with those behind them. -/
theorem isSorted_iff {lexicon : Lexicon} :
    lexicon.isSorted = true ↔
      lexicon.entries.toList.Pairwise fun a b => b.key.length ≤ a.key.length := by
  rw [isSorted, all_zip_drop_one_iff, List.isChain_iff_pairwise, List.pairwise_map]

theorem isSorted_sort (lexicon : Lexicon) : lexicon.sort.isSorted = true :=
  isSorted_iff.2 (pairwise_stableSort (r := fun a b : Entry => b.key.length ≤ a.key.length)
    (fun _ _ => Nat.le_total _ _) (fun h h' => Nat.le_trans h' h) _)

end Lexicon

end Wordbridge
