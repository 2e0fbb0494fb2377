import Wordbridge.Proofs.Lexicon.Index

/-!
# The order of a lexicon

Sorting puts the longest words first, and words of one length in the order in
which they first came into the lexicon. How often the lexicon was sorted before
does not matter to that, and nor does what was written again:

* `toList_entries_insert`: a write changes an entry in its place, or adds one
  behind the others;
* `sort_insert_congr`, `sort_insertAll_congr`: lexicons that are the same when
  sorted are so after the same writes;
* `Recipe.sort_lexicon`: however a lexicon is put together, sorting it gives
  what sorting only once, after all writes, would give.
-/

namespace Wordbridge

/-- The entry with this counterpart and rank, if it is that of the word. -/
def Entry.rewrite (key value : Text) (rank : Nat) (e : Entry) : Entry :=
  if e.key = key then { e with value := value, rank := rank } else e

@[simp] theorem Entry.key_rewrite (key value : Text) (rank : Nat) (e : Entry) :
    (e.rewrite key value rank).key = e.key := by
  unfold Entry.rewrite
  split <;> rfl

namespace Lexicon

section

variable {lexicon other : Lexicon}

/-! ## Where a write goes -/

/-- A word that the lexicon has is written in its place, and another one behind all of them. -/
theorem toList_entries_insert (h : lexicon.WellFormed) (key value : Text) :
    (lexicon.insert key value).entries.toList =
      if key ∈ lexicon.entries.toList.map Entry.key then
        lexicon.entries.toList.map (Entry.rewrite key value lexicon.nextRank)
      else lexicon.entries.toList ++ [⟨key, value, lexicon.nextRank⟩] := by
  unfold insert
  split
  · rename_i position hp
    have hk := (h.indexes key position).1 hp
    rw [if_pos (List.mem_of_getElem? hk), Array.toList_modify]
    refine List.ext_getElem? fun i => ?_
    rw [List.getElem?_modify, List.getElem?_map]
    cases he : lexicon.entries.toList[i]? with
    | none => rfl
    | some e =>
      have hi : e.key = key ↔ position = i := by
        constructor
        · rintro rfl
          have hindex := (h.indexes e.key i).2 (by rw [List.getElem?_map, he]; rfl)
          exact Option.some.inj (hp.symm.trans hindex)
        · rintro rfl
          rw [List.getElem?_map, he] at hk
          exact Option.some.inj hk
      simp only [Option.map_eq_map, Option.map_some, Entry.rewrite, hi]
  · rename_i hp
    rw [if_neg (h.indexes.not_mem hp), Array.toList_push]

theorem map_key_insert (h : lexicon.WellFormed) (key value : Text) :
    (lexicon.insert key value).entries.toList.map Entry.key =
      if key ∈ lexicon.entries.toList.map Entry.key then lexicon.entries.toList.map Entry.key
      else lexicon.entries.toList.map Entry.key ++ [key] := by
  rw [toList_entries_insert h]
  split
  · rw [List.map_map]
    exact List.map_congr_left fun e _ => Entry.key_rewrite ..
  · rw [List.map_append, List.map_singleton]

theorem insertAll_append (lexicon : Lexicon) (words words' : List (Text × Text)) :
    lexicon.insertAll (words ++ words') = (lexicon.insertAll words).insertAll words' :=
  List.foldl_append

theorem ofPairs_append (words words' : List (Text × Text)) :
    ofPairs (words ++ words') = (ofPairs words).insertAll words' :=
  insertAll_append _ _ _

theorem wellFormed_ofPairs (words : List (Text × Text)) : (ofPairs words).WellFormed :=
  wellFormed_insertAll wellFormed_empty words

/-- The first of equal words stays. -/
theorem eraseDups_append_singleton (keys : List Text) (key : Text) :
    (keys ++ [key]).eraseDups =
      if key ∈ keys then keys.eraseDups else keys.eraseDups ++ [key] := by
  rw [List.eraseDups_append]
  by_cases h : key ∈ keys
  · simp [List.removeAll, h]
  · simp [List.removeAll, h, List.eraseDups_cons]

/-- The words stand in the order in which they were first written. -/
theorem map_key_ofPairs (words : List (Text × Text)) :
    (ofPairs words).entries.toList.map Entry.key = (words.map Prod.fst).eraseDups := by
  induction words using List.reverseRecOn with
  | nil => rfl
  | append_singleton words word ih =>
    have hinsert : ofPairs (words ++ [word]) = (ofPairs words).insert word.1 word.2 :=
      ofPairs_append words [word]
    rw [hinsert, map_key_insert (wellFormed_ofPairs words), ih, List.map_append, List.map_singleton,
      eraseDups_append_singleton]
    simp only [List.mem_eraseDups]

theorem pairwise_idxOf_eraseDups (keys : List Text) :
    keys.eraseDups.Pairwise fun a b => keys.idxOf a < keys.idxOf b := by
  induction keys using List.reverseRecOn with
  | nil => exact .nil
  | append_singleton keys key ih =>
    have hidx : ∀ a ∈ keys.eraseDups, (keys ++ [key]).idxOf a = keys.idxOf a := fun a ha =>
      List.idxOf_append_of_mem (List.mem_eraseDups.1 ha)
    have hkeys : keys.eraseDups.Pairwise fun a b =>
        (keys ++ [key]).idxOf a < (keys ++ [key]).idxOf b :=
      ih.imp_of_mem fun ha hb hab => by rwa [hidx _ ha, hidx _ hb]
    rw [eraseDups_append_singleton]
    split
    · exact hkeys
    · rename_i hkey
      refine List.pairwise_append.2 ⟨hkeys, List.pairwise_singleton _ _, fun a ha b hb => ?_⟩
      have hlt := List.idxOf_lt_length_iff.2 (List.mem_eraseDups.1 ha)
      rw [List.mem_singleton.1 hb, hidx a ha, List.idxOf_append_of_notMem hkey]
      omega

/-! ## What sorting gives -/

theorem toList_entries_sort (lexicon : Lexicon) :
    lexicon.sort.entries.toList =
      stableSort (fun a b => decide (b.key.length ≤ a.key.length)) lexicon.entries.toList :=
  rfl

/-- A sorted lexicon is given by the sorted entries and the next rank. -/
theorem sort_eq_sort (he : lexicon.sort.entries.toList = other.sort.entries.toList)
    (hr : lexicon.nextRank = other.nextRank) : lexicon.sort = other.sort := by
  rw [toList_entries_sort, toList_entries_sort] at he
  rw [sort, sort, he, hr]

/-- Longer words come first, and what holds of the entries from first to last still holds of those
with words of one length. -/
theorem pairwise_sort {R : Entry → Entry → Prop} (h : lexicon.entries.toList.Pairwise R) :
    lexicon.sort.entries.toList.Pairwise fun a b =>
      b.key.length ≤ a.key.length ∧ (a.key.length ≤ b.key.length → R a b) :=
  pairwise_stableSort_of_pairwise (r := fun a b : Entry => b.key.length ≤ a.key.length)
    (fun _ _ => Nat.le_total _ _) (fun h h' => Nat.le_trans h' h) h

theorem toList_entries_sort_eq_self (h : lexicon.isSorted = true) :
    lexicon.sort.entries.toList = lexicon.entries.toList :=
  stableSort_eq_self (r := fun a b : Entry => b.key.length ≤ a.key.length) (isSorted_iff.1 h)

theorem sort_sort (lexicon : Lexicon) : lexicon.sort.sort = lexicon.sort :=
  sort_eq_sort (toList_entries_sort_eq_self (isSorted_sort lexicon)) rfl

/-- A lexicon is sorted exactly if sorting leaves its entries as they are. -/
theorem isSorted_iff_entries_sort_eq :
    lexicon.isSorted = true ↔ lexicon.sort.entries = lexicon.entries := by
  constructor
  · exact fun h => Array.toList_inj.1 (toList_entries_sort_eq_self h)
  · intro h
    have hs := isSorted_sort lexicon
    rw [isSorted_iff, h] at hs
    exact isSorted_iff.2 hs

theorem get?_sort (h : lexicon.WellFormed) (key : Text) :
    lexicon.sort.get? key = lexicon.get? key := by
  refine Option.ext fun value => ?_
  rw [get?_eq_some_iff (wellFormed_sort h), get?_eq_some_iff h]
  simp only [(entries_sort_perm lexicon).mem_iff]

/-! ## Sorting and writing -/

/-- Sorting before a write does not matter to sorting after it. -/
theorem sort_insert_sort (h : lexicon.WellFormed) (key value : Text) :
    (lexicon.sort.insert key value).sort = (lexicon.insert key value).sort := by
  refine sort_eq_sort ?_ (by rw [nextRank_insert, nextRank_insert]; rfl)
  have hmem : key ∈ lexicon.sort.entries.toList.map Entry.key ↔
      key ∈ lexicon.entries.toList.map Entry.key :=
    ((entries_sort_perm lexicon).map Entry.key).mem_iff
  rw [toList_entries_sort, toList_entries_sort, toList_entries_insert (wellFormed_sort h),
    toList_entries_insert h]
  simp only [hmem]
  split
  · have hkeep : ∀ a b : Entry,
        decide ((b.rewrite key value lexicon.nextRank).key.length ≤
          (a.rewrite key value lexicon.nextRank).key.length) =
            decide (b.key.length ≤ a.key.length) := by
      intro a b
      rw [Entry.key_rewrite, Entry.key_rewrite]
    have hsorted := toList_entries_sort_eq_self (isSorted_sort lexicon)
    rw [toList_entries_sort lexicon.sort] at hsorted
    refine (stableSort_map hkeep _).trans ?_
    rw [hsorted, toList_entries_sort, ← stableSort_map hkeep]
    rfl
  · exact stableSort_stableSort_append (r := fun a b : Entry => b.key.length ≤ a.key.length)
      (fun _ _ => Nat.le_total _ _) (fun h h' => Nat.le_trans h' h) _ _

theorem sort_insert_congr (h : lexicon.WellFormed) (h' : other.WellFormed)
    (heq : lexicon.sort = other.sort) (key value : Text) :
    (lexicon.insert key value).sort = (other.insert key value).sort := by
  rw [← sort_insert_sort h, heq, sort_insert_sort h']

/-- Lexicons that are the same when sorted are so after the same writes. -/
theorem sort_insertAll_congr (h : lexicon.WellFormed) (h' : other.WellFormed)
    (heq : lexicon.sort = other.sort) (words : List (Text × Text)) :
    (lexicon.insertAll words).sort = (other.insertAll words).sort := by
  induction words generalizing lexicon other with
  | nil => exact heq
  | cons word words ih =>
    rw [insertAll_cons, insertAll_cons]
    exact ih (wellFormed_insert h word.1 word.2) (wellFormed_insert h' word.1 word.2)
      (sort_insert_congr h h' heq word.1 word.2)

end

/-! ## However a lexicon is put together -/

/-- How a lexicon is put together. -/
inductive Recipe where
  | empty
  | insert (recipe : Recipe) (key value : Text)
  | merge (recipe other : Recipe)
  | sort (recipe : Recipe)
  deriving DecidableEq, Repr

namespace Recipe

/-- The lexicon that the recipe gives. -/
def lexicon : Recipe → Lexicon
  | empty => .empty
  | insert recipe key value => recipe.lexicon.insert key value
  | merge recipe other => recipe.lexicon.merge other.lexicon
  | sort recipe => recipe.lexicon.sort

/-- The writes into the lexicon, the first one first. A merge writes the words of the other lexicon
in the order of their last writes there. -/
def log : Recipe → History
  | empty => []
  | insert recipe key value => recipe.log ++ [(key, value)]
  | merge recipe other => recipe.log ++ other.log.latest
  | sort recipe => recipe.log

/-- The number of writes before the one that brought the word into the lexicon. -/
def arrival (recipe : Recipe) (key : Text) : Nat :=
  (recipe.log.map Prod.fst).idxOf key

/-- The recipe without sorting. -/
def unsorted : Recipe → Recipe
  | empty => empty
  | insert recipe key value => insert recipe.unsorted key value
  | merge recipe other => merge recipe.unsorted other.unsorted
  | sort recipe => recipe.unsorted

theorem wellFormed_lexicon (recipe : Recipe) : recipe.lexicon.WellFormed := by
  induction recipe with
  | empty => exact wellFormed_empty
  | insert recipe key value ih => exact wellFormed_insert ih key value
  | merge recipe other ih _ => exact wellFormed_insertAll ih _
  | sort recipe ih => exact wellFormed_sort ih

/-- What is left of the writes is the last one of each word. -/
theorem writes_lexicon (recipe : Recipe) : recipe.lexicon.writes = recipe.log.latest := by
  induction recipe with
  | empty => exact writes_empty
  | insert recipe key value ih =>
    rw [lexicon, writes_insert recipe.wellFormed_lexicon, ih, log, History.latest_append_singleton]
  | merge recipe other ih ih' =>
    have hm : (merge recipe other).lexicon.writes =
        other.lexicon.writes.foldl History.overwrite recipe.lexicon.writes :=
      writes_insertAll recipe.wellFormed_lexicon other.lexicon.writes
    rw [hm, ih, ih', log, History.latest_append]
  | sort recipe ih => rw [lexicon, writes_sort recipe.wellFormed_lexicon, ih, log]

/-- Sorted, a lexicon is what writing all its words and sorting them once gives. -/
theorem sort_lexicon (recipe : Recipe) :
    recipe.lexicon.sort = (ofPairs recipe.log).sort := by
  induction recipe with
  | empty => rfl
  | insert recipe key value ih =>
    rw [log, ofPairs_append]
    exact sort_insert_congr recipe.wellFormed_lexicon (wellFormed_ofPairs _) ih key value
  | merge recipe other ih _ =>
    have hm : (merge recipe other).lexicon = recipe.lexicon.insertAll other.lexicon.writes := rfl
    rw [hm, other.writes_lexicon, log, ofPairs_append]
    exact sort_insertAll_congr recipe.wellFormed_lexicon (wellFormed_ofPairs _) ih _
  | sort recipe ih => rw [lexicon, sort_sort, ih, log]

theorem log_unsorted (recipe : Recipe) : recipe.unsorted.log = recipe.log := by
  induction recipe with
  | empty => rfl
  | insert recipe key value ih => rw [unsorted, log, ih, log]
  | merge recipe other ih ih' => rw [unsorted, log, ih, ih', log]
  | sort recipe ih => rw [unsorted, ih, log]

theorem sort_lexicon_congr {recipe other : Recipe} (h : recipe.unsorted = other.unsorted) :
    recipe.lexicon.sort = other.lexicon.sort := by
  rw [sort_lexicon, sort_lexicon, ← log_unsorted, h, log_unsorted]

/-- The words of the lexicon are those that were written. -/
theorem mem_map_key_iff (recipe : Recipe) (key : Text) :
    key ∈ recipe.lexicon.entries.toList.map Entry.key ↔ key ∈ recipe.log.map Prod.fst := by
  rw [← ((entries_sort_perm recipe.lexicon).map Entry.key).mem_iff, sort_lexicon,
    ((entries_sort_perm _).map Entry.key).mem_iff, map_key_ofPairs, List.mem_eraseDups]

/-- Longer words come first, and words of one length in the order in which they arrived. -/
theorem pairwise_arrival_sort (recipe : Recipe) :
    recipe.lexicon.sort.entries.toList.Pairwise fun a b =>
      b.key.length < a.key.length ∨
        a.key.length = b.key.length ∧ recipe.arrival a.key < recipe.arrival b.key := by
  have harrival : (ofPairs recipe.log).entries.toList.Pairwise fun a b =>
      recipe.arrival a.key < recipe.arrival b.key := by
    have h := pairwise_idxOf_eraseDups (recipe.log.map Prod.fst)
    rwa [← map_key_ofPairs, List.pairwise_map] at h
  rw [sort_lexicon]
  refine (pairwise_sort harrival).imp fun {a b} hab => ?_
  rcases Nat.lt_or_eq_of_le hab.1 with hlt | heq
  · exact .inl hlt
  · exact .inr ⟨heq.symm, hab.2 (Nat.le_of_eq heq.symm)⟩

/-- Sorting rearranges the entries of a lexicon, so that longer words come first, and words of one
length in the order in which they were first written into it. No sorting before that changes the
outcome, in the lexicon itself or in those that were merged into it. All words keep their
counterparts, sorting again changes nothing, and a lexicon is sorted exactly if sorting leaves its
entries as they are. -/
theorem order_and_sort_of_recipe (recipe : Recipe) :
    recipe.lexicon.sort.entries.toList.Perm recipe.lexicon.entries.toList ∧
      (∀ key, key ∈ recipe.lexicon.entries.toList.map Entry.key ↔
        key ∈ recipe.log.map Prod.fst) ∧
      (recipe.lexicon.sort.entries.toList.Pairwise fun a b =>
        b.key.length < a.key.length ∨
          a.key.length = b.key.length ∧ recipe.arrival a.key < recipe.arrival b.key) ∧
      (∀ other : Recipe, other.unsorted = recipe.unsorted →
        other.lexicon.sort = recipe.lexicon.sort) ∧
      (∀ key, recipe.lexicon.sort.get? key = recipe.lexicon.get? key) ∧
      recipe.lexicon.sort.sort = recipe.lexicon.sort ∧
      (recipe.lexicon.isSorted = true ↔
        recipe.lexicon.sort.entries = recipe.lexicon.entries) :=
  ⟨entries_sort_perm _, recipe.mem_map_key_iff, recipe.pairwise_arrival_sort,
    fun _ h => sort_lexicon_congr h, get?_sort recipe.wellFormed_lexicon, sort_sort _,
    isSorted_iff_entries_sort_eq⟩

-- A word that is written again keeps its place, but a merge brings the words of the other lexicon
-- in the order of their last writes there.
example :
    (((empty.insert "if".toList "a".toList).insert "do".toList "b".toList).sort.merge
      ((((empty.insert "by".toList "c".toList).insert "in".toList "d".toList).insert "by".toList
        "e".toList).insert "if".toList "f".toList)).lexicon.sort.pairs =
      [("if".toList, "f".toList), ("do".toList, "b".toList), ("in".toList, "d".toList),
        ("by".toList, "e".toList)] := by
  decide +kernel

end Recipe

end Lexicon

end Wordbridge
