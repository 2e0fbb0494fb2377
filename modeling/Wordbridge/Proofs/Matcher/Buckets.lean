import Mathlib.Logic.ExistsUnique
import Wordbridge.Proofs.Matcher
import Wordbridge.Proofs.Text.Offset

/-!
# The buckets of a matcher

A matcher files the positions of its patterns by their first characters. Each
position is in one bucket, and a bucket keeps the order of the patterns
(`IsIndexOf`), so that the search of a bucket finds the same pattern as a search
of the whole list, which is the first one that fits (`IsFirstMatch`). With the
longest words first, no word that fits is longer in characters. All words that
fit start the same text, so that none is longer in bytes either.
-/

namespace Wordbridge.Matcher

/-- The matcher has these patterns, and its buckets hold their positions. -/
structure IsIndexOf (matcher : Matcher) (patterns : List Pattern) : Prop where
  toList_patterns : matcher.patterns.toList = patterns
  /-- A bucket has the positions of the patterns that start with its character. -/
  mem_iff (c : Char) (position : Nat) : position ∈ matcher.buckets.getD c [] ↔
    ∃ p, patterns[position]? = some p ∧ p.word.head? = some c
  inRange (c : Char) : ∀ position ∈ matcher.buckets.getD c [], position < matcher.patterns.size
  /-- A bucket keeps the order of the patterns. -/
  ordered (c : Char) : (matcher.buckets.getD c []).Pairwise (· < ·)
  /-- Each position is in one bucket. -/
  filed (position : Nat) : position < matcher.patterns.size →
    ∃! c, position ∈ matcher.buckets.getD c []

/-- The pattern is the first of the list whose word the text starts with. -/
def IsFirstMatch (patterns : List Pattern) (text : Text) (pattern : Pattern) : Prop :=
  pattern.word <+: text ∧
    ∃ before after, patterns = before ++ pattern :: after ∧ ∀ p ∈ before, ¬ p.word <+: text

variable {patterns : List Pattern}

theorem mem_bucket_iff {c : Char} {position : Nat} :
    position ∈ (ofPatterns patterns).buckets.getD c [] ↔
      ∃ p, patterns[position]? = some p ∧ p.word.head? = some c := by
  rw [getD_buckets_ofPatterns]
  simp [List.mk_mem_zipIdx_iff_getElem?]

/-- The positions of a bucket are some of all positions, which go up. -/
theorem pairwise_bucket (patterns : List Pattern) (c : Char) :
    ((ofPatterns patterns).buckets.getD c []).Pairwise (· < ·) := by
  have hall : (patterns.zipIdx.map Prod.snd).Pairwise (· < ·) := by
    rw [List.zipIdx_map_snd]
    exact List.pairwise_lt_range'
  rw [getD_buckets_ofPatterns]
  exact hall.sublist (List.filter_sublist.map Prod.snd)

theorem isIndexOf_ofPatterns (hne : ∀ p ∈ patterns, p.word ≠ []) :
    (ofPatterns patterns).IsIndexOf patterns where
  toList_patterns := rfl
  mem_iff c position := mem_bucket_iff
  inRange c position h := by
    obtain ⟨p, hp, -⟩ := mem_bucket_iff.1 h
    obtain ⟨hlt, -⟩ := List.getElem?_eq_some_iff.1 hp
    simpa [ofPatterns] using hlt
  ordered c := pairwise_bucket patterns c
  filed position h := by
    have hlt : position < patterns.length := by simpa [ofPatterns] using h
    have hp : patterns[position]? = some patterns[position] := List.getElem?_eq_getElem hlt
    obtain ⟨c, word, hword⟩ := List.exists_cons_of_ne_nil (hne _ (List.getElem_mem hlt))
    refine ⟨c, mem_bucket_iff.2 ⟨_, hp, by rw [hword, List.head?_cons]⟩, fun c' hc' => ?_⟩
    obtain ⟨p, hp', hhead⟩ := mem_bucket_iff.1 hc'
    obtain rfl := Option.some.inj (hp.symm.trans hp')
    rw [hword, List.head?_cons] at hhead
    exact (Option.some.inj hhead).symm

theorem find?_eq_some_iff_isFirstMatch {text : Text} {pattern : Pattern} :
    (patterns.find? fun p => p.word.isPrefixOf text) = some pattern ↔
      IsFirstMatch patterns text pattern := by
  rw [List.find?_eq_some_iff_append, IsFirstMatch, List.isPrefixOf_iff_prefix]
  simp only [Bool.not_eq_true', ← Bool.not_eq_true, List.isPrefixOf_iff_prefix]

variable {lexicon : Lexicon} {direction : Direction} {text : Text} {pattern : Pattern}

theorem longest?_eq_some_iff_isFirstMatch :
    (ofLexicon lexicon direction).longest? text = some pattern ↔
      IsFirstMatch (lexicon.patterns direction) text pattern := by
  rw [longest?_ofLexicon]
  exact find?_eq_some_iff_isFirstMatch

/-- No word that fits is longer than the first. Both start the text, and so it does not matter how
they are counted. -/
theorem IsFirstMatch.length_le (h : IsFirstMatch (lexicon.patterns direction) text pattern)
    {p : Pattern} (hp : p ∈ lexicon.patterns direction) (hword : p.word <+: text) :
    p.word.length ≤ pattern.word.length ∧
      Text.byteLength p.word ≤ Text.byteLength pattern.word := by
  have hle := length_le_of_longest? (longest?_eq_some_iff_isFirstMatch.2 h) hp hword
  exact ⟨hle, (Text.byteLength_le_iff hword h.1).2 hle⟩

/-- The search of a bucket gives the number of bytes and the image of the first pattern of the whole
list that fits, and nothing if no pattern does. No pattern that fits is longer. -/
theorem longest?_eq_linear_search (lexicon : Lexicon) (direction : Direction) :
    (ofLexicon lexicon direction).IsIndexOf (lexicon.patterns direction) ∧
      ∀ text,
        (∀ length image,
          ((ofLexicon lexicon direction).longest? text).map
              (fun p => (Text.byteLength p.word, p.image)) = some (length, image) ↔
            ∃ p, IsFirstMatch (lexicon.patterns direction) text p ∧
              Text.byteLength p.word = length ∧ p.image = image) ∧
        ((ofLexicon lexicon direction).longest? text = none ↔
          ∀ p ∈ lexicon.patterns direction, ¬ p.word <+: text) ∧
        ∀ pattern, IsFirstMatch (lexicon.patterns direction) text pattern →
          ∀ p ∈ lexicon.patterns direction, p.word <+: text →
            p.word.length ≤ pattern.word.length ∧
              Text.byteLength p.word ≤ Text.byteLength pattern.word := by
  refine ⟨?_, fun text => ⟨fun length image => ?_, ?_, ?_⟩⟩
  · exact isIndexOf_ofPatterns fun _ hp => (Lexicon.mem_patterns_iff_mem_replacements.1 hp).1
  · simp only [Option.map_eq_some_iff, Prod.mk.injEq, longest?_eq_some_iff_isFirstMatch]
  · rw [longest?_ofLexicon, List.find?_eq_none]
    simp only [List.isPrefixOf_iff_prefix]
  · intro pattern h p hp hword
    exact h.length_le hp hword

/-- Of the words that the text starts with, the longer one is found. A word with more characters, but
fewer bytes, comes first among the patterns. -/
theorem longest?_eq_linear_search_of_mixed_widths :
    let lexicon := Lexicon.ofPairs
      [("д".toList, "a".toList), ("да".toList, "yes".toList), ("end".toList, "b".toList)]
    let found : Pattern := ⟨"да".toList, "yes".toList⟩
    IsFirstMatch (lexicon.patterns .forward) "дай".toList found ∧
      ⟨"д".toList, "a".toList⟩ ∈ lexicon.patterns .forward ∧ "д".toList <+: "дай".toList ∧
      "д".toList.length ≤ found.word.length ∧
      Text.byteLength "д".toList ≤ Text.byteLength found.word ∧
      ((ofLexicon lexicon .forward).longest? "дай".toList).map
        (fun p => (Text.byteLength p.word, p.image)) = some (4, "yes".toList) := by
  intro lexicon found
  obtain ⟨-, h⟩ := longest?_eq_linear_search lexicon .forward
  obtain ⟨hfound, -, hlength⟩ := h "дай".toList
  have hfirst : IsFirstMatch (lexicon.patterns .forward) "дай".toList found :=
    ⟨by decide, [⟨"end".toList, "b".toList⟩], [⟨"д".toList, "a".toList⟩], by decide +kernel,
      by decide⟩
  have hmem : ⟨"д".toList, "a".toList⟩ ∈ lexicon.patterns .forward := by decide +kernel
  have hword : "д".toList <+: "дай".toList := by decide
  obtain ⟨hchars, hbytes⟩ := hlength found hfirst _ hmem hword
  exact ⟨hfirst, hmem, hword, hchars, hbytes, (hfound _ _).2 ⟨found, hfirst, by decide, rfl⟩⟩

end Wordbridge.Matcher
