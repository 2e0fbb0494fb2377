import Wordbridge.Proofs.Matcher
import Wordbridge.Proofs.Region

/-!
# The segments of a text

`Starts` says what a text starts with in a pass over it: a region, else the
longest word, else a character. A list of segments is a scan of the text
(`IsScan`) if each of them is what the text starts with at its place. The
segments that a matcher cuts off are a scan, and there is no other:

* `starts_iff_eq_next`: the step;
* `isScan_iff_eq_segments`: the whole text.

So what substitution does depends on the patterns alone (`substitute_congr`).
-/

namespace Wordbridge

/-- What a text starts with, in a pass over it with the words of a history. -/
inductive Starts (history : History) (direction : Direction) (text : Text) : Segment → Prop
  | region {rule : Region.Rule} {region : Text} (first : Region.IsFirst rule text)
    (spans : rule.Spans text region) : Starts history direction text (.region region)
  | word {pattern : Pattern} (outside : ∀ rule ∈ Region.rules, ¬ rule.opener <+: text)
    (isPrefix : pattern.word <+: text) (isWord : history.IsWord direction pattern.word)
    (longest : ∀ word, history.IsWord direction word → word <+: text →
      word.length ≤ pattern.word.length)
    (replaces : history.Replaces direction pattern.word pattern.image) :
    Starts history direction text (.word pattern)
  | plain {c : Char} {rest : Text} (isFirst : text = c :: rest)
    (outside : ∀ rule ∈ Region.rules, ¬ rule.opener <+: text)
    (noWord : ∀ word, history.IsWord direction word → ¬ word <+: text) :
    Starts history direction text (.plain c)

/-- The segments make up the text, and each is what the text starts with at its place. -/
structure IsScan (history : History) (direction : Direction) (text : Text)
    (segments : List Segment) : Prop where
  source_eq : segments.flatMap Segment.source = text
  ne_nil : ∀ segment ∈ segments, segment.source ≠ []
  starts : ∀ before segment after, segments = before ++ segment :: after →
    Starts history direction (text.drop (before.flatMap Segment.source).length) segment

variable {lexicon : Lexicon} {history : History} {direction : Direction}

/-! ## The step -/

/-- A text starts with the segment that the matcher cuts off, and with no other. -/
theorem starts_iff_eq_next (h : lexicon.HasHistory history) {c : Char} {text : Text}
    {segment : Segment} :
    Starts history direction (c :: text) segment ↔
      segment = (Matcher.ofLexicon lexicon direction).next c text := by
  constructor
  · intro hs
    cases hs with
    | region first spans =>
      rw [(Region.spans_iff first.1).1 spans, Matcher.next, Region.rule?_eq_some_iff.2 first]
    | word outside isPrefix isWord longest replaces =>
      rw [Matcher.next, Region.rule?_eq_none_iff.2 outside,
        (Matcher.longest?_eq_some_iff h).2 ⟨isPrefix, isWord, longest, replaces⟩]
    | plain isFirst outside noWord =>
      rw [Matcher.next, Region.rule?_eq_none_iff.2 outside,
        (Matcher.longest?_eq_none_iff h).2 noWord, (List.cons.inj isFirst).1]
  · rintro rfl
    unfold Matcher.next
    split
    · rename_i rule hr
      have first := Region.rule?_eq_some_iff.1 hr
      exact .region first ((Region.spans_iff first.1).2 rfl)
    · rename_i hr
      have outside := Region.rule?_eq_none_iff.1 hr
      split
      · rename_i pattern hl
        obtain ⟨isPrefix, isWord, longest, replaces⟩ := (Matcher.longest?_eq_some_iff h).1 hl
        exact .word outside isPrefix isWord longest replaces
      · rename_i hl
        exact .plain rfl outside ((Matcher.longest?_eq_none_iff h).1 hl)

theorem Region.Rule.Spans.isPrefix {rule : Region.Rule} {text region : Text}
    (h : rule.Spans text region) : rule.opener <+: region ∧ region <+: text := by
  cases h with
  | closed h first =>
    rw [h]
    exact ⟨by simp, by simp⟩
  | unclosed h never => exact ⟨⟨_, h.symm⟩, List.prefix_rfl⟩

/-- What a text starts with is a piece of it. -/
theorem Starts.source_isPrefix {text : Text} {segment : Segment}
    (h : Starts history direction text segment) : segment.source <+: text := by
  cases h with
  | region first spans => exact spans.isPrefix.2
  | word _ isPrefix => exact isPrefix
  | plain isFirst => exact ⟨_, isFirst.symm⟩

/-- The pass goes forward. -/
theorem Starts.source_ne_nil {text : Text} {segment : Segment}
    (h : Starts history direction text segment) : segment.source ≠ [] := by
  cases h with
  | region first spans =>
    have hr := Region.mem_rules_of_rule? (Region.rule?_eq_some_iff.2 first)
    exact fun hnil => Region.opener_ne_nil hr (List.prefix_nil.1 (hnil ▸ spans.isPrefix.1))
  | word _ _ isWord => exact (History.isWord_iff_exists_replaces.1 isWord).1
  | plain => exact List.cons_ne_nil _ _

/-! ## The whole text -/

theorem isScan_nil_iff {text : Text} : IsScan history direction text [] ↔ text = [] := by
  refine ⟨fun h => h.source_eq.symm, fun h => ⟨h.symm, fun _ hm => ?_, fun _ _ _ he => ?_⟩⟩
  · cases hm
  · exact absurd he (by simp)

theorem isScan_cons_iff {text : Text} {segment : Segment} {segments : List Segment} :
    IsScan history direction text (segment :: segments) ↔
      Starts history direction text segment ∧
        ∃ rest, text = segment.source ++ rest ∧ IsScan history direction rest segments := by
  constructor
  · rintro ⟨rfl, hne, hs⟩
    refine ⟨hs [] segment segments rfl, _, List.flatMap_cons, rfl,
      fun s hm => hne s (List.mem_cons_of_mem _ hm), fun before s after he => ?_⟩
    have := hs (segment :: before) s after (by rw [he]; rfl)
    rwa [List.flatMap_cons, List.flatMap_cons, List.length_append, ← List.drop_drop,
      List.drop_left] at this
  · rintro ⟨hstart, rest, rfl, hrest⟩
    refine ⟨by rw [List.flatMap_cons, hrest.source_eq], fun s hm => ?_, fun before s after he => ?_⟩
    · rcases List.mem_cons.1 hm with rfl | hm
      · exact hstart.source_ne_nil
      · exact hrest.ne_nil s hm
    · cases before with
      | nil =>
        rw [(List.cons.inj he).1] at hstart ⊢
        exact hstart
      | cons s' before =>
        obtain ⟨rfl, he'⟩ := List.cons.inj he
        rw [List.flatMap_cons, List.length_append, ← List.drop_drop, List.drop_left]
        exact hrest.starts before s after he'

/-- A segment is cut off, and the others come from what is left. -/
theorem segments_append (h : lexicon.HasHistory history) {segment : Segment} {rest : Text}
    (hs : Starts history direction (segment.source ++ rest) segment) :
    (Matcher.ofLexicon lexicon direction).segments (segment.source ++ rest) =
      segment :: (Matcher.ofLexicon lexicon direction).segments rest := by
  match hsource : segment.source with
  | [] => exact absurd hsource hs.source_ne_nil
  | c :: tail =>
    rw [hsource, List.cons_append] at hs
    have hnext := (starts_iff_eq_next h).1 hs
    rw [List.cons_append, Matcher.segments, ← hnext, hsource, List.length_cons, Nat.add_sub_cancel,
      List.drop_left]

/-- The segments that the matcher cuts off are the one scan of the text. -/
theorem isScan_iff_eq_segments (h : lexicon.HasHistory history) {text : Text}
    {segments : List Segment} :
    IsScan history direction text segments ↔
      segments = (Matcher.ofLexicon lexicon direction).segments text := by
  constructor
  · intro hs
    induction segments generalizing text with
    | nil => rw [isScan_nil_iff.1 hs, Matcher.segments]
    | cons segment segments ih =>
      obtain ⟨hstart, rest, rfl, hrest⟩ := isScan_cons_iff.1 hs
      rw [segments_append h hstart, ih hrest]
  · rintro rfl
    induction hn : text.length using Nat.strongRecOn generalizing text with
    | ind n ih =>
      cases text with
      | nil =>
        rw [Matcher.segments]
        exact isScan_nil_iff.2 rfl
      | cons c text =>
        have hstart : Starts history direction (c :: text)
            ((Matcher.ofLexicon lexicon direction).next c text) := (starts_iff_eq_next h).2 rfl
        obtain ⟨rest, hrest⟩ := hstart.source_isPrefix
        have hlt : rest.length < n := by
          have := List.length_pos_iff.2 hstart.source_ne_nil
          rw [← hn, ← hrest, List.length_append]
          omega
        generalize (Matcher.ofLexicon lexicon direction).next c text = segment at hstart hrest
        rw [← hrest] at hstart ⊢
        rw [segments_append h hstart]
        exact isScan_cons_iff.2 ⟨hstart, rest, rfl, ih _ hlt rfl⟩

/-! ## Substitution -/

/-- There is exactly one scan of a text, and substitution puts the images of its segments in their
places. -/
theorem existsUnique_isScan_and_substitute_eq (h : lexicon.HasHistory history)
    (direction : Direction) (text : Text) :
    (∃! segments, IsScan history direction text segments) ∧
      ∀ segments, IsScan history direction text segments →
        lexicon.substitute direction text = segments.flatMap Segment.image := by
  refine ⟨⟨_, (isScan_iff_eq_segments h).2 rfl, fun segments hs => ?_⟩, fun segments hs => ?_⟩
  · exact (isScan_iff_eq_segments h).1 hs
  · rw [Lexicon.substitute, Matcher.substitute, (isScan_iff_eq_segments h).1 hs]

/-- A counterpart of two words, an empty counterpart and a region. -/
theorem existsUnique_isScan_of_shared_counterpart :
    (∃! segments, IsScan [("do".toList, "x".toList), ("open".toList, "x".toList), ("by".toList, [])]
        .reverse "yx'x'[[x".toList segments) ∧
      ∀ segments, IsScan [("do".toList, "x".toList), ("open".toList, "x".toList), ("by".toList, [])]
          .reverse "yx'x'[[x".toList segments →
        (Lexicon.ofPairs [("do".toList, "x".toList), ("open".toList, "x".toList),
          ("by".toList, [])]).sort.substitute .reverse "yx'x'[[x".toList =
            segments.flatMap Segment.image :=
  existsUnique_isScan_and_substitute_eq (.sort (.ofPairs _)) .reverse _

example :
    (Lexicon.ofPairs [("do".toList, "x".toList), ("open".toList, "x".toList),
      ("by".toList, [])]).sort.substitute .reverse "yx'x'[[x".toList = "yopen'x'[[x".toList := by
  decide +kernel

/-- What a text starts with is replaced first, and the rest by itself. -/
theorem substitute_append (h : lexicon.HasHistory history) {segment : Segment} {rest : Text}
    (hs : Starts history direction (segment.source ++ rest) segment) :
    lexicon.substitute direction (segment.source ++ rest) =
      segment.image ++ lexicon.substitute direction rest := by
  rw [Lexicon.substitute, Matcher.substitute, segments_append h hs, List.flatMap_cons]
  rfl

theorem substitute_nil : lexicon.substitute direction [] = [] := by
  rw [Lexicon.substitute, Matcher.substitute, Matcher.segments, List.flatMap_nil]

/-- A pass over a text only asks for the longest word at the places that it comes to. -/
theorem Matcher.segments_congr {matcher other : Matcher}
    (h : ∀ text, matcher.longest? text = other.longest? text) (text : Text) :
    matcher.segments text = other.segments text := by
  have hnext : ∀ c text, matcher.next c text = other.next c text := by
    intro c text
    simp only [Matcher.next, h]
  fun_induction Matcher.segments matcher text with
  | case1 => rw [Matcher.segments]
  | case2 c text segment ih =>
    rw [Matcher.segments, ih, ← hnext]

/-- Lexicons with the same patterns replace the same words by the same images. -/
theorem substitute_congr {other : Lexicon} {history' : History} {direction' : Direction}
    (h : lexicon.HasHistory history) (h' : other.HasHistory history')
    (hp : ∀ p, p ∈ lexicon.patterns direction ↔ p ∈ other.patterns direction') (text : Text) :
    lexicon.substitute direction text = other.substitute direction' text := by
  rw [Lexicon.substitute, Lexicon.substitute, Matcher.substitute, Matcher.substitute,
    Matcher.segments_congr (Matcher.longest?_congr h h' hp)]

end Wordbridge
