import Wordbridge.Proofs.Scan

/-!
# Reading a lexicon backwards

The inverse of a lexicon has the counterparts as its words. They are written in
the order in which the words were last written, so that where words share a
counterpart, the inverse keeps the one written last. Reading the lexicon in
reverse is reading its inverse forward:

* `History.value?_latest_swap_iff`: what the inverse says of a word is what the
  history says of it in reverse;
* `mem_patterns_inverse_iff`: both have the same patterns.
-/

namespace Wordbridge

namespace History

/-- The counterpart of a word is that of the write of it that no other follows. -/
theorem value?_eq_some_iff_append {history : History} {key value : Text} :
    history.value? key = some value ↔
      ∃ before after, history = before ++ (key, value) :: after ∧ ∀ w ∈ after, w.1 ≠ key := by
  rw [value?, List.lookup_eq_some_iff]
  constructor
  · rintro ⟨before, after, heq, hne⟩
    refine ⟨after.reverse, before.reverse, ?_, fun w hw heq => ?_⟩
    · rw [← List.reverse_reverse history, heq]
      simp
    · exact absurd heq.symm (by simpa using hne w (List.mem_reverse.1 hw))
  · rintro ⟨before, after, rfl, hne⟩
    refine ⟨after.reverse, before.reverse, by simp, fun w hw => ?_⟩
    simpa using (hne w (List.mem_reverse.1 hw)).symm

/-- The last writes with words and counterparts exchanged give a counterpart the word that was
written last of those that have it. -/
theorem value?_latest_swap_iff {history : History} {word image : Text} :
    value? (history.latest.map Prod.swap) word = some image ↔
      history.Replaces .reverse word image := by
  have hages := history.pairwise_age_latest
  rw [value?_eq_some_iff_append, Replaces]
  constructor
  · rintro ⟨before, after, heq, hne⟩
    obtain ⟨before, rest, hlatest, rfl, hrest⟩ := List.map_eq_append_iff.1 heq
    obtain ⟨write, after, rfl, hwrite, rfl⟩ := List.map_eq_cons_iff.1 hrest
    obtain rfl : write = (image, word) := by rw [← Prod.swap_swap write, hwrite, Prod.swap_prod_mk]
    rw [hlatest, List.pairwise_append] at hages
    refine ⟨mem_latest_iff.1 (hlatest ▸ by simp), fun key hkey => ?_⟩
    have hmem := mem_latest_iff.2 hkey
    rw [hlatest, List.mem_append, List.mem_cons] at hmem
    rcases hmem with hmem | heq | hmem
    · exact Nat.le_of_lt (hages.2.2 _ hmem _ (List.mem_cons_self ..))
    · rw [(Prod.mk.inj heq).1]
    · exact absurd rfl (hne _ (List.mem_map_of_mem hmem))
  · rintro ⟨hvalue, hlast⟩
    obtain ⟨before, after, hlatest⟩ := List.append_of_mem (mem_latest_iff.2 hvalue)
    rw [hlatest, List.pairwise_append] at hages
    refine ⟨before.map Prod.swap, after.map Prod.swap, ?_, ?_⟩
    · rw [hlatest, List.map_append, List.map_cons, Prod.swap_prod_mk]
    · rintro w hw rfl
      obtain ⟨write, hmem, rfl⟩ := List.mem_map.1 hw
      have hlt := List.rel_of_pairwise_cons hages.2.1 hmem
      have hwrite : (write.1, write.2) ∈ history.latest := by
        rw [hlatest]
        exact List.mem_append_right _ (List.mem_cons_of_mem _ hmem)
      have hle := hlast write.1 (mem_latest_iff.1 hwrite)
      exact absurd hlt (Nat.not_lt_of_le hle)

end History

namespace Lexicon

/-- The lexicon with the counterparts as words, in the order in which the words were last
written. -/
def inverse (lexicon : Lexicon) : Lexicon :=
  ofPairs (lexicon.byRank.map fun e => (e.value, e.key))

variable {lexicon : Lexicon} {history : History}

theorem hasHistory_inverse (h : lexicon.HasHistory history) :
    lexicon.inverse.HasHistory (history.latest.map Prod.swap) := by
  have heq : lexicon.byRank.map (fun e => (e.value, e.key)) = history.latest.map Prod.swap := by
    rw [← writes_of_hasHistory h, writes, List.map_map]
    rfl
  rw [inverse, heq]
  exact .ofPairs _

/-- The inverse replaces forward what the lexicon replaces in reverse. -/
theorem mem_patterns_inverse_iff (h : lexicon.HasHistory history) (p : Pattern) :
    p ∈ lexicon.patterns .reverse ↔ p ∈ lexicon.inverse.patterns .forward := by
  rw [mem_patterns_iff h, mem_patterns_iff (hasHistory_inverse h)]
  exact and_congr_right fun _ => History.value?_latest_swap_iff.symm

/-- Substitution in reverse is substitution forward with the inverse of the lexicon, which is written
in the order of the last writes of the entries. -/
theorem substitute_reverse_eq_substitute_inverse (h : lexicon.HasHistory history) :
    (lexicon.byRank.Perm lexicon.entries.toList ∧
        lexicon.byRank.Pairwise fun a b => history.age b.key < history.age a.key) ∧
      ∀ text, lexicon.substitute .reverse text = lexicon.inverse.substitute .forward text := by
  refine ⟨⟨lexicon.byRank_perm, pairwise_age_byRank h⟩, fun text => ?_⟩
  exact substitute_congr h (hasHistory_inverse h) (mem_patterns_inverse_iff h) text

/-- A counterpart of two words, of which the first was written again, an empty counterpart and an
empty word. -/
theorem substitute_inverse_of_shared_counterpart :
    let lexicon := ((ofPairs [("do".toList, "x".toList), ("open".toList, "x".toList),
      ("by".toList, []), ([], "y".toList)]).insert "do".toList "x".toList).sort
    lexicon.substitute .reverse "yx'x'x".toList = lexicon.inverse.substitute .forward "yx'x'x".toList ∧
      lexicon.inverse.substitute .forward "yx'x'x".toList = "do'x'do".toList := by
  intro lexicon
  have h := substitute_reverse_eq_substitute_inverse ((HasHistory.ofPairs [("do".toList, "x".toList),
    ("open".toList, "x".toList), ("by".toList, []), ([], "y".toList)]).insert
      "do".toList "x".toList).sort
  exact ⟨h.2 _, by decide +kernel⟩

end Lexicon

end Wordbridge
