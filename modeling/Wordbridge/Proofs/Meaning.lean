import Wordbridge.Proofs.Inversion

/-!
# What a lexicon means

Two lexicons that came about by different writes may hold the same words in
different places. What they mean is what can be looked up in them: forward the
counterpart of each word, in reverse the word that a counterpart gives way to.

* `History.value?_perm`: writes of different words may be made in any order;
* `Lexicon.substitute_forward_congr`, `Lexicon.substitute_reverse_congr`:
  substitution depends on the meaning alone.
-/

namespace Wordbridge

namespace History

/-- If no word is written twice, each has the counterpart of its one write. -/
theorem value?_eq_some_iff_mem {history : History} (hn : (history.map Prod.fst).Nodup)
    {key value : Text} : history.value? key = some value ↔ (key, value) ∈ history := by
  refine ⟨mem_of_value?, fun hm => value?_eq_some_iff_append.2 ?_⟩
  obtain ⟨before, after, rfl⟩ := List.append_of_mem hm
  refine ⟨before, after, rfl, fun w hw heq => ?_⟩
  rw [List.map_append, List.map_cons, List.nodup_append] at hn
  exact (List.nodup_cons.1 hn.2.1).1 (List.mem_map.2 ⟨w, hw, heq⟩)

/-- The order in which different words are written does not matter to their counterparts. -/
theorem value?_perm {history other : History} (hp : history.Perm other)
    (hn : (history.map Prod.fst).Nodup) (key : Text) : history.value? key = other.value? key := by
  have hn' : (other.map Prod.fst).Nodup := (hp.map Prod.fst).nodup_iff.1 hn
  refine Option.ext fun value => ?_
  rw [value?_eq_some_iff_mem hn, value?_eq_some_iff_mem hn', hp.mem_iff]

/-- In reverse, too, only the last write of each word counts. -/
theorem replaces_reverse_congr {history other : History} (h : history.latest = other.latest)
    (word image : Text) :
    history.Replaces .reverse word image ↔ other.Replaces .reverse word image := by
  rw [← value?_latest_swap_iff, h, value?_latest_swap_iff]

end History

namespace Lexicon

variable {lexicon other : Lexicon} {history history' : History}

theorem HasHistory.insertAll (h : lexicon.HasHistory history) (words : List (Text × Text)) :
    (lexicon.insertAll words).HasHistory (history ++ words) := by
  induction words generalizing lexicon history with
  | nil =>
    rw [List.append_nil]
    exact h
  | cons word words ih =>
    rw [insertAll_cons, List.append_cons]
    exact ih (h.insert word.1 word.2)

/-- What is looked up after more words have been written: those words first. -/
theorem get?_insertAll (h : lexicon.HasHistory history) (words : List (Text × Text)) (key : Text) :
    (lexicon.insertAll words).get? key = (History.value? words key).or (lexicon.get? key) := by
  rw [get?_eq_value? (h.insertAll words), History.value?_append, get?_eq_value? h]

/-- Lexicons that came about by the same writes replace the same words. -/
theorem substitute_eq_of_hasHistory (h : lexicon.HasHistory history)
    (h' : other.HasHistory history) (direction : Direction) (text : Text) :
    lexicon.substitute direction text = other.substitute direction text := by
  refine substitute_congr h h' (fun p => ?_) text
  rw [mem_patterns_iff h, mem_patterns_iff h']

/-- Forward, lexicons with the same counterparts replace the same words. -/
theorem substitute_forward_congr (h : lexicon.HasHistory history) (h' : other.HasHistory history')
    (hget : ∀ key, lexicon.get? key = other.get? key) (text : Text) :
    lexicon.substitute .forward text = other.substitute .forward text := by
  refine substitute_congr h h' (fun p => ?_) text
  rw [mem_patterns_iff h, mem_patterns_iff h', History.Replaces, History.Replaces,
    ← get?_eq_value? h, ← get?_eq_value? h', hget]

/-- In reverse, lexicons in which each counterpart gives way to the same word replace the same
words. -/
theorem substitute_reverse_congr (h : lexicon.HasHistory history) (h' : other.HasHistory history')
    (hlast : ∀ value key, history.Replaces .reverse value key ↔ history'.Replaces .reverse value key)
    (text : Text) : lexicon.substitute .reverse text = other.substitute .reverse text := by
  refine substitute_congr h h' (fun p => ?_) text
  rw [mem_patterns_iff h, mem_patterns_iff h', hlast]

/-- Substitution depends on the meaning of a lexicon and not on its layout. Forward, this is the
counterpart of each word; in reverse, it is also which of the words that share a counterpart was
written last. So sorting changes nothing, and nor does, forward, the order in which different words
are added. -/
theorem substitute_eq_of_get?_eq (h : lexicon.HasHistory history) (h' : other.HasHistory history')
    (hget : ∀ key, lexicon.get? key = other.get? key) :
    (∀ text, lexicon.substitute .forward text = other.substitute .forward text) ∧
      ((∀ value key, history.Replaces .reverse value key ↔ history'.Replaces .reverse value key) →
        ∀ text, lexicon.substitute .reverse text = other.substitute .reverse text) ∧
      (∀ direction text, lexicon.sort.substitute direction text = lexicon.substitute direction text) ∧
      ∀ words words' : List (Text × Text), words.Perm words' → (words.map Prod.fst).Nodup →
        ∀ text, (lexicon.insertAll words).substitute .forward text =
          (other.insertAll words').substitute .forward text := by
  refine ⟨substitute_forward_congr h h' hget, substitute_reverse_congr h h', ?_, ?_⟩
  · intro direction text
    refine substitute_congr h.sort h (fun p => ?_) text
    rw [mem_patterns_iff h.sort, mem_patterns_iff h]
  · intro words words' hp hn text
    refine substitute_forward_congr (h.insertAll words) (h'.insertAll words') (fun key => ?_) text
    rw [get?_insertAll h, get?_insertAll h', History.value?_perm hp hn, hget]

/-- Two words that share a counterpart, and one that starts another. The entries stand in different
places, and one word was first written otherwise. -/
theorem substitute_eq_of_written_otherwise :
    let lexicon := (ofPairs [("if".toList, "a".toList), ("do".toList, "z".toList),
      ("ifdef".toList, "x".toList)]).insert "do".toList "x".toList
    let other := (ofPairs [("if".toList, "a".toList), ("ifdef".toList, "x".toList),
      ("do".toList, "x".toList)]).sort
    lexicon.pairs ≠ other.pairs ∧
      (∀ text, lexicon.substitute .forward text = other.substitute .forward text) ∧
      (∀ text, lexicon.substitute .reverse text = other.substitute .reverse text) ∧
      other.substitute .forward "ifdef do".toList = "x x".toList ∧
      other.substitute .reverse "x a".toList = "do if".toList := by
  intro lexicon other
  have h := (HasHistory.ofPairs [("if".toList, "a".toList), ("do".toList, "z".toList),
    ("ifdef".toList, "x".toList)]).insert "do".toList "x".toList
  have h' := (HasHistory.ofPairs [("if".toList, "a".toList), ("ifdef".toList, "x".toList),
    ("do".toList, "x".toList)]).sort
  have hlatest : History.latest ([("if".toList, "a".toList), ("do".toList, "z".toList),
      ("ifdef".toList, "x".toList)] ++ [("do".toList, "x".toList)]) =
        History.latest [("if".toList, "a".toList), ("ifdef".toList, "x".toList),
          ("do".toList, "x".toList)] := by
    decide
  have hget : ∀ key, lexicon.get? key = other.get? key := by
    intro key
    refine Option.ext fun value => ?_
    rw [get?_eq_value? h, get?_eq_value? h', ← History.mem_latest_iff, hlatest,
      History.mem_latest_iff]
  have hall := substitute_eq_of_get?_eq h h' hget
  exact ⟨by decide +kernel, hall.1, hall.2.1 (History.replaces_reverse_congr hlatest),
    by decide +kernel, by decide +kernel⟩

end Lexicon

end Wordbridge
