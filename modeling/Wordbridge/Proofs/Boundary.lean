import Wordbridge.Proofs.Scan

/-!
# Cutting a text between segments

A pass over a text comes to the offsets between its segments (`IsBoundary`).
Where it does, the text can be cut, and its two parts replaced by themselves:
what a text starts with is still what it starts with when the text is cut
short behind it (`Starts.of_append`), so that both parts have the scans that
they have in the whole text (`IsScan.left`, `IsScan.right`).
-/

namespace Wordbridge

/-! ## A text cut short -/

/-- An opener that is still there is still the first. -/
theorem Region.IsFirst.of_append {rule : Region.Rule} {text rest : Text}
    (h : Region.IsFirst rule (text ++ rest)) (hp : rule.opener <+: text) :
    Region.IsFirst rule text := by
  obtain ⟨-, before, after, hrules, hbefore⟩ := h
  refine ⟨hp, before, after, hrules, fun r hr hopener => ?_⟩
  exact hbefore r hr (hopener.trans (List.prefix_append text rest))

/-- A region that is still there ends where it did. -/
theorem Region.Rule.Spans.of_append {rule : Region.Rule} {text rest region : Text}
    (h : rule.Spans (text ++ rest) region) (hp : region <+: text) : rule.Spans text region := by
  generalize hall : text ++ rest = all at h
  cases h with
  | @closed body behind hclosed first =>
    obtain ⟨tail, rfl⟩ := hp
    have htext : rule.opener ++ body ++ rule.closer ++ tail =
        rule.opener ++ (body ++ rule.closer ++ tail) := by
      simp only [List.append_assoc]
    exact .closed htext (first.append_congr tail)
  | @unclosed body hunclosed never =>
    have hlength := hp.length_le
    rw [← hall, List.length_append] at hlength
    have hrest : rest = [] := List.length_eq_zero_iff.1 (by omega)
    rw [hrest, List.append_nil] at hall
    rw [hall]
    exact .unclosed hunclosed never

variable {lexicon : Lexicon} {history : History} {direction : Direction}

/-- What a text starts with does not depend on what follows. -/
theorem Starts.of_append {text rest : Text} {segment : Segment}
    (h : Starts history direction (text ++ rest) segment) (hp : segment.source <+: text) :
    Starts history direction text segment := by
  have hlonger : ∀ {word : Text}, word <+: text → word <+: text ++ rest :=
    fun hw => hw.trans (List.prefix_append text rest)
  cases h with
  | region first spans =>
    exact .region (first.of_append (spans.isPrefix.1.trans hp)) (spans.of_append hp)
  | word outside isPrefix isWord longest replaces =>
    exact .word (fun rule hr hopener => outside rule hr (hlonger hopener)) hp isWord
      (fun word hw hword => longest word hw (hlonger hword)) replaces
  | @plain c behind isFirst outside noWord =>
    obtain ⟨tail, rfl⟩ := hp
    exact .plain rfl (fun rule hr hopener => outside rule hr (hlonger hopener))
      fun word hw hword => noWord word hw (hlonger hword)

/-! ## Parts of a scan -/

/-- The first segments are the scan of what they are cut from. -/
theorem IsScan.left {text : Text} {before after : List Segment}
    (h : IsScan history direction text (before ++ after)) :
    IsScan history direction (before.flatMap Segment.source) before := by
  induction before generalizing text with
  | nil => exact isScan_nil_iff.2 rfl
  | cons segment before ih =>
    rw [List.cons_append] at h
    obtain ⟨hstart, rest, rfl, hrest⟩ := isScan_cons_iff.1 h
    have hsplit : rest = before.flatMap Segment.source ++ after.flatMap Segment.source := by
      rw [← List.flatMap_append, hrest.source_eq]
    rw [hsplit, ← List.append_assoc] at hstart
    rw [List.flatMap_cons]
    exact isScan_cons_iff.2 ⟨hstart.of_append (List.prefix_append _ _), _, rfl, ih hrest⟩

/-- So are the last ones. -/
theorem IsScan.right {text : Text} {before after : List Segment}
    (h : IsScan history direction text (before ++ after)) :
    IsScan history direction (after.flatMap Segment.source) after := by
  induction before generalizing text with
  | nil =>
    rw [List.nil_append] at h
    rwa [h.source_eq]
  | cons segment before ih =>
    obtain ⟨-, rest, -, hrest⟩ := isScan_cons_iff.1 h
    exact ih hrest

theorem substitute_eq_flatMap_image (h : lexicon.HasHistory history) {text : Text}
    {segments : List Segment} (hs : IsScan history direction text segments) :
    lexicon.substitute direction text = segments.flatMap Segment.image := by
  rw [Lexicon.substitute, Matcher.substitute, (isScan_iff_eq_segments h).1 hs]

theorem substitute_append_of_isScan (h : lexicon.HasHistory history) {text : Text}
    {before after : List Segment} (hs : IsScan history direction text (before ++ after)) :
    lexicon.substitute direction text =
      lexicon.substitute direction (before.flatMap Segment.source) ++
        lexicon.substitute direction (after.flatMap Segment.source) := by
  rw [substitute_eq_flatMap_image h hs, substitute_eq_flatMap_image h hs.left,
    substitute_eq_flatMap_image h hs.right, List.flatMap_append]

/-! ## Boundaries -/

/-- A pass over the text comes to the offset: segments of its scan end there. -/
def IsBoundary (history : History) (direction : Direction) (text : Text) (offset : Nat) : Prop :=
  ∃ before after, IsScan history direction text (before ++ after) ∧
    (before.flatMap Segment.source).length = offset

/-- Where a pass over a text comes to, the text can be cut, and its parts replaced by themselves. If
a region starts there, it stays as it is, whatever words it has. -/
theorem substitute_eq_append_of_isBoundary (h : lexicon.HasHistory history) {text : Text}
    {offset : Nat} (hb : IsBoundary history direction text offset) :
    lexicon.substitute direction text =
        lexicon.substitute direction (text.take offset) ++
          lexicon.substitute direction (text.drop offset) ∧
      ∀ rule region, Region.IsFirst rule (text.drop offset) →
        rule.Spans (text.drop offset) region →
          lexicon.substitute direction text =
            lexicon.substitute direction (text.take offset) ++ region ++
              lexicon.substitute direction (text.drop (offset + region.length)) := by
  have hcut : lexicon.substitute direction text =
      lexicon.substitute direction (text.take offset) ++
        lexicon.substitute direction (text.drop offset) := by
    obtain ⟨before, after, hs, rfl⟩ := hb
    have htext := hs.source_eq
    rw [List.flatMap_append] at htext
    rw [substitute_append_of_isScan h hs, ← htext, List.take_left, List.drop_left]
  refine ⟨hcut, fun rule region first spans => ?_⟩
  obtain ⟨rest, hrest⟩ := spans.isPrefix.2
  have hstart : Starts history direction ((Segment.region region).source ++ rest)
      (.region region) := by
    show Starts history direction (region ++ rest) (.region region)
    rw [hrest]
    exact .region first spans
  have hregion := substitute_append h hstart
  simp only [Segment.source, Segment.image] at hregion
  have hbehind : text.drop (offset + region.length) = rest := by
    rw [← List.drop_drop, ← hrest, List.drop_left]
  rw [hcut, hbehind, ← hrest, hregion, List.append_assoc]

/-- A text with a word in front of a quoted word, and one behind it. -/
theorem substitute_eq_append_of_quoted_word :
    IsBoundary [("do".toList, "open".toList), ("d".toList, "x".toList)] .forward
        "dod'do'do".toList 3 ∧
      (Lexicon.ofPairs [("do".toList, "open".toList), ("d".toList, "x".toList)]).substitute .forward
          "dod'do'do".toList =
        (Lexicon.ofPairs [("do".toList, "open".toList), ("d".toList, "x".toList)]).substitute
            .forward "dod".toList ++ "'do'".toList ++
          (Lexicon.ofPairs [("do".toList, "open".toList), ("d".toList, "x".toList)]).substitute
            .forward "do".toList := by
  have h := Lexicon.HasHistory.ofPairs [("do".toList, "open".toList), ("d".toList, "x".toList)]
  have hb : IsBoundary [("do".toList, "open".toList), ("d".toList, "x".toList)] .forward
      "dod'do'do".toList 3 :=
    ⟨[.word ⟨"do".toList, "open".toList⟩, .word ⟨"d".toList, "x".toList⟩],
      [.region "'do'".toList, .word ⟨"do".toList, "open".toList⟩],
      (isScan_iff_eq_segments h).2 (by decide +kernel), rfl⟩
  refine ⟨hb, (substitute_eq_append_of_isBoundary h hb).2 ⟨"'".toList, "'".toList⟩ "'do'".toList
    (Region.rule?_eq_some_iff.1 (by decide +kernel)) ?_⟩
  exact (Region.spans_iff (by decide)).2 (by decide +kernel)

end Wordbridge
