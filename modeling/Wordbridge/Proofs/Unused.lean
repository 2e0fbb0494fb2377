import Mathlib.Data.List.Infix
import Wordbridge.Proofs.Boundary
import Wordbridge.Proofs.Lexicon.Index

/-!
# Words that a text does not use

A pass over a text asks only at the boundaries between its segments for a word
that the text goes on with, and only where no region starts. A new word that
starts at none of them is never found. Nor does it matter where it starts
together with a region or with a longer word (`Segment.Covers`):

* `History.isWord_append_singleton`, `History.replaces_append_singleton`: a new
  entry is one more word and leaves what is put in the place of the others,
  though in reverse it may take over a counterpart;
* `Starts.append_singleton`: the step, at one boundary;
* `substitute_insert_of_covers`: the whole text.
-/

namespace Wordbridge

/-- What an entry is found by in a direction: its word, or in reverse its counterpart. -/
def Direction.wordOf : Direction → Text × Text → Text
  | .forward, write => write.1
  | .reverse, write => write.2

variable {lexicon : Lexicon} {history : History} {direction : Direction} {write : Text × Text}

/-! ## One more entry -/

namespace History

/-- The words after a new word was written: that of its entry, and those from before. -/
theorem isWord_append_singleton (hnew : history.value? write.1 = none) {word : Text} :
    (history ++ [write]).IsWord direction word ↔
      (word ≠ [] ∧ word = direction.wordOf write) ∨ history.IsWord direction word := by
  cases direction with
  | forward =>
    simp only [IsWord, value?_append_singleton, Direction.wordOf, ← and_or_left]
    refine and_congr_right fun _ => ?_
    by_cases hw : word = write.1
    · simp [hw]
    · simp [hw]
  | reverse =>
    simp only [IsWord, value?_append_singleton, Direction.wordOf, ← and_or_left]
    refine and_congr_right fun _ => ⟨?_, fun hor => ?_⟩
    · rintro ⟨key, hk⟩
      by_cases hkey : key = write.1
      · rw [if_pos hkey] at hk
        exact .inl (Option.some.inj hk).symm
      · rw [if_neg hkey] at hk
        exact .inr ⟨key, hk⟩
    · rcases hor with rfl | ⟨key, hk⟩
      · exact ⟨write.1, if_pos rfl⟩
      · have hkey : key ≠ write.1 := by
          rintro rfl
          rw [hnew] at hk
          cases hk
        exact ⟨key, (if_neg hkey).trans hk⟩

/-- What is put in the place of other words stays. -/
theorem replaces_append_singleton (hnew : history.value? write.1 = none) {word image : Text}
    (hne : word ≠ direction.wordOf write) :
    (history ++ [write]).Replaces direction word image ↔ history.Replaces direction word image := by
  cases direction with
  | forward =>
    have hkey : word ≠ write.1 := hne
    rw [Replaces, Replaces, value?_append_singleton, if_neg hkey]
  | reverse =>
    have hvalue : ∀ {key}, value? (history ++ [write]) key = some word ↔
        history.value? key = some word := by
      intro key
      rw [value?_append_singleton]
      by_cases hkey : key = write.1
      · rw [if_pos hkey, hkey, hnew, Option.some.injEq]
        exact ⟨fun heq => absurd heq.symm hne, fun h => by cases h⟩
      · rw [if_neg hkey]
    have hage : ∀ {key}, history.value? key = some word →
        age (history ++ [write]) key = history.age key + 1 := by
      intro key hk
      rw [age_append_singleton, if_neg]
      rintro rfl
      rw [hnew] at hk
      cases hk
    rw [Replaces, Replaces, hvalue]
    refine and_congr_right fun hi => forall_congr' fun key => ?_
    rw [hvalue]
    refine forall_congr' fun hk => ?_
    rw [hage hi, hage hk, Nat.add_le_add_iff_right]

end History

/-! ## The pass over a text -/

/-- A word that starts where the segment does is not found there: the segment is a region, or a
longer word. -/
def Segment.Covers : Segment → Text → Prop
  | .region _, _ => True
  | .word pattern, text => text.length < pattern.word.length
  | .plain _, _ => False

instance : DecidableRel Segment.Covers
  | .region _, _ => inferInstanceAs (Decidable True)
  | .word pattern, text => inferInstanceAs (Decidable (text.length < pattern.word.length))
  | .plain _, _ => inferInstanceAs (Decidable False)

/-- The new entry changes nothing where it is covered. -/
theorem Starts.append_singleton (hnew : history.value? write.1 = none) {text : Text}
    {segment : Segment} (hs : Starts history direction text segment)
    (hcover : direction.wordOf write ≠ [] → direction.wordOf write <+: text →
      segment.Covers (direction.wordOf write)) :
    Starts (history ++ [write]) direction text segment := by
  cases hs with
  | region first spans => exact .region first spans
  | @word pattern outside isPrefix isWord longest replaces =>
    have hne : pattern.word ≠ direction.wordOf write := by
      intro heq
      have hlt := hcover (heq ▸ (History.isWord_iff_exists_replaces.1 isWord).1) (heq ▸ isPrefix)
      rw [Segment.Covers, heq] at hlt
      exact Nat.lt_irrefl _ hlt
    refine .word outside isPrefix ((History.isWord_append_singleton hnew).2 (.inr isWord)) ?_
      ((History.replaces_append_singleton hnew hne).2 replaces)
    intro word hw hword
    rcases (History.isWord_append_singleton hnew).1 hw with ⟨hnil, rfl⟩ | hw
    · exact Nat.le_of_lt (hcover hnil hword)
    · exact longest word hw hword
  | plain isFirst outside noWord =>
    refine .plain isFirst outside fun word hw hword => ?_
    rcases (History.isWord_append_singleton hnew).1 hw with ⟨hnil, rfl⟩ | hw
    · exact hcover hnil hword
    · exact noWord word hw hword

theorem IsScan.append_singleton (hnew : history.value? write.1 = none) {text : Text}
    {segments : List Segment} (hs : IsScan history direction text segments)
    (hcover : ∀ before segment after, segments = before ++ segment :: after →
      direction.wordOf write ≠ [] →
      direction.wordOf write <+: text.drop (before.flatMap Segment.source).length →
      segment.Covers (direction.wordOf write)) :
    IsScan (history ++ [write]) direction text segments where
  source_eq := hs.source_eq
  ne_nil := hs.ne_nil
  starts before segment after heq :=
    (hs.starts before segment after heq).append_singleton hnew (hcover before segment after heq)

/-- A new entry does not change what a text is replaced by, if it is covered wherever it starts at a
boundary. -/
theorem substitute_insert_of_covers (h : lexicon.HasHistory history) {key value text : Text}
    (hnew : history.value? key = none) {segments : List Segment}
    (hs : IsScan history direction text segments)
    (hcover : ∀ before segment after, segments = before ++ segment :: after →
      direction.wordOf (key, value) ≠ [] →
      direction.wordOf (key, value) <+: text.drop (before.flatMap Segment.source).length →
      segment.Covers (direction.wordOf (key, value))) :
    (lexicon.insert key value).substitute direction text = lexicon.substitute direction text := by
  have hs' : IsScan (history ++ [(key, value)]) direction text segments :=
    hs.append_singleton hnew hcover
  rw [substitute_eq_flatMap_image (h.insert key value) hs', substitute_eq_flatMap_image h hs]

/-! ## Where a word occurs -/

/-- Each occurrence of the word in the text lies in a region or in a longer word of its scan. -/
def OccursOnlyInside (history : History) (direction : Direction) (text word : Text) : Prop :=
  ∀ offset, word <+: text.drop offset → ∃ before segment after,
    IsScan history direction text (before ++ segment :: after) ∧ segment.Covers word ∧
      (before.flatMap Segment.source).length ≤ offset ∧
      offset + word.length ≤ (before.flatMap Segment.source).length + segment.source.length

theorem IsScan.eq {text : Text} {segments segments' : List Segment}
    (hs : IsScan history direction text segments) (hs' : IsScan history direction text segments') :
    segments = segments' := by
  have h := Lexicon.HasHistory.ofPairs history
  rw [(isScan_iff_eq_segments h).1 hs, (isScan_iff_eq_segments h).1 hs']

/-- The boundaries of a text are the lengths of its first segments. -/
theorem isBoundary_iff_exists_mem_inits (h : lexicon.HasHistory history) {text : Text}
    {offset : Nat} :
    IsBoundary history direction text offset ↔
      ∃ before ∈ ((Matcher.ofLexicon lexicon direction).segments text).inits,
        (before.flatMap Segment.source).length = offset := by
  simp only [IsBoundary, List.mem_inits, isScan_iff_eq_segments h]
  constructor
  · rintro ⟨before, after, heq, hlength⟩
    exact ⟨before, ⟨after, heq⟩, hlength⟩
  · rintro ⟨before, ⟨after, heq⟩, hlength⟩
    exact ⟨before, after, heq, hlength⟩

/-- Segments are not empty, so that one of them starts at an offset or reaches over it. -/
theorem segment_eq_of_le_of_lt {before after before' after' : List Segment}
    {segment segment' : Segment} (heq : before ++ segment :: after = before' ++ segment' :: after')
    (hne : ∀ s ∈ before ++ segment :: after, s.source ≠ [])
    (hle : (before.flatMap Segment.source).length ≤ (before'.flatMap Segment.source).length)
    (hlt : (before'.flatMap Segment.source).length <
      (before.flatMap Segment.source).length + segment.source.length) : segment = segment' := by
  rcases List.append_eq_append_iff.1 heq with ⟨middle, rfl, hmiddle⟩ | ⟨middle, rfl, hmiddle⟩
  · cases middle with
    | nil => exact (List.cons.inj hmiddle).1
    | cons s middle =>
      rw [← (List.cons.inj hmiddle).1, List.flatMap_append, List.flatMap_cons, List.length_append,
        List.length_append] at hlt
      omega
  · cases middle with
    | nil => exact (List.cons.inj hmiddle).1.symm
    | cons s middle =>
      have hs : 0 < s.source.length := List.length_pos_iff.2 (hne s (by simp))
      rw [List.flatMap_append, List.flatMap_cons, List.length_append, List.length_append] at hle
      omega

theorem OccursOnlyInside.covers {text word : Text}
    (h : OccursOnlyInside history direction text word) {before after : List Segment}
    {segment : Segment} (hs : IsScan history direction text (before ++ segment :: after))
    (hne : word ≠ []) (hword : word <+: text.drop (before.flatMap Segment.source).length) :
    segment.Covers word := by
  obtain ⟨before', segment', after', hs', hcovers, hle, hlt⟩ := h _ hword
  have hpos := List.length_pos_iff.2 hne
  have heq : before' ++ segment' :: after' = before ++ segment :: after := hs'.eq hs
  rwa [segment_eq_of_le_of_lt heq hs'.ne_nil hle (by omega)] at hcovers

/-- A new entry does not change what a text is replaced by, if it is not found at any boundary of
the text: the word that it is found by in this direction is empty, or the text goes on with it at no
boundary. In particular it may occur in regions and in longer words. -/
theorem substitute_insert_of_unused (h : lexicon.HasHistory history) {key : Text}
    (hkey : lexicon.contains key = false) (value : Text) {text : Text}
    (hunused : direction.wordOf (key, value) = [] ∨
      (∀ offset, IsBoundary history direction text offset →
        ¬ direction.wordOf (key, value) <+: text.drop offset) ∨
      OccursOnlyInside history direction text (direction.wordOf (key, value))) :
    (lexicon.insert key value).substitute direction text = lexicon.substitute direction text := by
  have hnew : history.value? key = none := by
    rw [Lexicon.contains_eq_isSome_get? (Lexicon.wellFormed_of_hasHistory h),
      Option.isSome_eq_false_iff, Option.isNone_iff_eq_none] at hkey
    rw [← Lexicon.get?_eq_value? h, hkey]
  have hs : IsScan history direction text
    ((Matcher.ofLexicon lexicon direction).segments text) := (isScan_iff_eq_segments h).2 rfl
  refine substitute_insert_of_covers h hnew hs fun before segment after heq hne hword => ?_
  rw [heq] at hs
  rcases hunused with hnil | hboundary | hinside
  · exact absurd hnil hne
  · exact absurd hword (hboundary _ ⟨before, segment :: after, hs, rfl⟩)
  · exact hinside.covers hs hne hword

/-- A word that starts a longer one and stands in a region, and a word that takes over a counterpart
which the text has in a region only. -/
theorem substitute_insert_of_quoted_word :
    let lexicon := Lexicon.ofPairs [("ifdef".toList, "x".toList), ("do".toList, "y".toList)]
    (lexicon.insert "if".toList "z".toList).substitute .forward "ifdef'if'do".toList =
        lexicon.substitute .forward "ifdef'if'do".toList ∧
      (lexicon.insert "open".toList "y".toList).substitute .reverse "x'y'".toList =
        lexicon.substitute .reverse "x'y'".toList ∧
      (lexicon.insert "open".toList "y".toList).substitute .reverse "y".toList = "open".toList ∧
      lexicon.substitute .reverse "y".toList = "do".toList := by
  intro lexicon
  have h := Lexicon.HasHistory.ofPairs [("ifdef".toList, "x".toList), ("do".toList, "y".toList)]
  have hinside : OccursOnlyInside [("ifdef".toList, "x".toList), ("do".toList, "y".toList)] .forward
      "ifdef'if'do".toList "if".toList := by
    intro offset hp
    have hoffset : offset = 0 ∨ offset = 6 := by
      have hlt : offset < 11 := by
        by_contra hge
        rw [List.drop_of_length_le (by simpa using hge)] at hp
        exact absurd (List.prefix_nil.1 hp) (by decide)
      revert hp
      revert offset
      decide
    rcases hoffset with rfl | rfl
    · exact ⟨[], .word ⟨"ifdef".toList, "x".toList⟩,
        [.region "'if'".toList, .word ⟨"do".toList, "y".toList⟩],
        (isScan_iff_eq_segments h).2 (by decide +kernel), by decide, by decide, by decide⟩
    · exact ⟨[.word ⟨"ifdef".toList, "x".toList⟩], .region "'if'".toList,
        [.word ⟨"do".toList, "y".toList⟩],
        (isScan_iff_eq_segments h).2 (by decide +kernel), trivial, by decide, by decide⟩
  have hboundary : ∀ offset, IsBoundary [("ifdef".toList, "x".toList), ("do".toList, "y".toList)]
      .reverse "x'y'".toList offset → ¬ "y".toList <+: "x'y'".toList.drop offset := by
    intro offset hb
    rw [isBoundary_iff_exists_mem_inits h] at hb
    obtain ⟨before, hmem, rfl⟩ := hb
    revert before
    decide +kernel
  exact ⟨substitute_insert_of_unused h (by decide +kernel) "z".toList (.inr (.inr hinside)),
    substitute_insert_of_unused h (by decide +kernel) "y".toList (.inr (.inl hboundary)),
    by decide +kernel, by decide +kernel⟩

end Wordbridge
