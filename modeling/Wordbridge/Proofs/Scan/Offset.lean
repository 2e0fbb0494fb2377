import Mathlib.Order.Bounds.Basic
import Wordbridge.Proofs.Scan
import Wordbridge.Proofs.Text.Offset

/-!
# A pass over the offsets of a text

Substitution is a loop over the byte offsets of a text (`Matcher.Passes`). At
each of them it copies the region that starts there, or puts in the image of
the longest word, or copies one character, and goes on behind that
(`Matcher.Advances`).

* `Rule.EndsAt`: where a region ends, in bytes;
* `Matcher.advances_iff`: a step goes from the start of a segment to its end;
* `Matcher.passes_iff`: the loop ends, visits the ends of the segments, and
  gives the text with its words replaced;
* `Matcher.Passes.offsets_sound`: the offsets go up, none is inside a character,
  and the last one is the end of the text.
-/

namespace Wordbridge

/-! ## The end of a region -/

namespace Region

/-- The text from behind the opener at byte `start` up to byte `stop` ends with the closer. -/
def Rule.ClosesAt (rule : Rule) (text : Text) (start stop : Nat) : Prop :=
  ∃ body, Text.IsSlice text (start + Text.byteLength rule.opener) stop body ∧ rule.closer <:+ body

/-- The region of the rule that starts at byte `start` ends at byte `stop`. -/
structure Rule.EndsAt (rule : Rule) (text : Text) (start stop : Nat) : Prop where
  isOffset : Text.IsOffset text stop
  opener_le : start + Text.byteLength rule.opener ≤ stop
  le_length : stop ≤ Text.byteLength text
  /-- The first closer ends the region, or else the end of the text does. -/
  first : IsLeast {stop | rule.ClosesAt text start stop} stop ∨
    (∀ stop, ¬ rule.ClosesAt text start stop) ∧ stop = Text.byteLength text

variable {rule : Rule} {front tail : Text}

/-- A closer ends at a byte if the bytes in front of its end are as many. -/
theorem closesAt_append_iff {stop : Nat} :
    rule.ClosesAt (front ++ (rule.opener ++ tail)) (Text.byteLength front) stop ↔
      ∃ body rest, tail = body ++ rule.closer ++ rest ∧
        stop = Text.byteLength (front ++ rule.opener ++ body ++ rule.closer) := by
  unfold Rule.ClosesAt
  rw [← Text.byteLength_append, ← List.append_assoc]
  simp only [Text.isSlice_append_iff]
  constructor
  · rintro ⟨_, ⟨⟨rest, rfl⟩, rfl⟩, body, rfl⟩
    exact ⟨body, rest, rfl, by simp only [List.append_assoc]⟩
  · rintro ⟨body, rest, rfl, rfl⟩
    refine ⟨body ++ rule.closer, ⟨List.prefix_append _ _, ?_⟩, List.suffix_append _ _⟩
    simp only [List.append_assoc]

/-- The first occurrence of the closer is the one that ends first. -/
theorem isLeast_closesAt_of_firstAt (front : Text) {body rest : Text}
    (h : Text.FirstAt rule.closer tail body rest) :
    IsLeast {stop | rule.ClosesAt (front ++ (rule.opener ++ tail)) (Text.byteLength front) stop}
      (Text.byteLength (front ++ rule.opener ++ body ++ rule.closer)) := by
  constructor
  · exact closesAt_append_iff.2 ⟨body, rest, h.1, rfl⟩
  · intro stop hstop
    obtain ⟨body', rest', htail, rfl⟩ := closesAt_append_iff.1 hstop
    have hbody : body <+: tail := ⟨rule.closer ++ rest, by rw [h.1, List.append_assoc]⟩
    have hbody' : body' <+: tail := ⟨rule.closer ++ rest', by rw [htail, List.append_assoc]⟩
    have hle := (Text.byteLength_le_iff hbody hbody').2 (h.2 body' rest' htail)
    simp only [Text.byteLength_append]
    omega

/-- A region ends behind the bytes in front of it and its own. -/
theorem Rule.Spans.endsAt {rest region : Text} (h : rule.Spans rest region) (front : Text) :
    rule.EndsAt (front ++ rest) (Text.byteLength front) (Text.byteLength (front ++ region)) := by
  obtain ⟨hopener, back, hback⟩ := h.isPrefix
  have hle := Text.byteLength_le_of_isPrefix hopener
  have hoffset : Text.IsOffset (front ++ rest) (Text.byteLength (front ++ region)) := by
    rw [← hback, ← List.append_assoc]
    exact Text.isOffset_of_append
  refine ⟨hoffset, ?_, hoffset.le_byteLength, ?_⟩
  · simp only [Text.byteLength_append]
    omega
  · cases h with
    | @closed body behind hclosed first =>
      have hleast := isLeast_closesAt_of_firstAt front first
      rw [hclosed]
      simp only [List.append_assoc] at hleast ⊢
      exact .inl hleast
    | @unclosed body hunclosed never =>
      refine .inr ⟨fun stop hstop => ?_, rfl⟩
      rw [hunclosed] at hstop
      obtain ⟨body', rest', hbody, -⟩ := closesAt_append_iff.1 hstop
      exact never ⟨body', rest', hbody.symm⟩

theorem endOffset_append (rule : Rule) (front rest : Text) :
    rule.endOffset (front ++ rest) (Text.byteLength front) =
      Text.byteLength (front ++ (rule.cut rest).1) := by
  simp only [Rule.endOffset, Text.dropBytes?_append, Text.byteLength_append]

end Region

/-! ## The loop -/

namespace Matcher

/-- A step of the loop, from a byte offset to the next one, with what it puts out. -/
inductive Advances (matcher : Matcher) (text : Text) (offset : Nat) : Nat → Text → Prop
  | region {rest region : Text} {rule : Region.Rule}
    (here : Text.dropBytes? offset text = some rest) (opens : Region.rule? rest = some rule)
    (slice : Text.IsSlice text offset (rule.endOffset text offset) region) :
    Advances matcher text offset (rule.endOffset text offset) region
  | word {rest : Text} {pattern : Pattern} (here : Text.dropBytes? offset text = some rest)
    (outside : Region.rule? rest = none) (found : matcher.longest? rest = some pattern) :
    Advances matcher text offset (offset + Text.byteLength pattern.word) pattern.image
  | plain {c : Char} {rest : Text} (here : Text.dropBytes? offset text = some (c :: rest))
    (outside : Region.rule? (c :: rest) = none) (nothing : matcher.longest? (c :: rest) = none) :
    Advances matcher text offset (offset + c.utf8Size) [c]

/-- The loop from a byte offset on: the offsets that it visits, and what it puts out. It goes on
until it has come to the end of the text. -/
inductive Passes (matcher : Matcher) (text : Text) : Nat → List Nat → Text → Prop
  | done {offset : Nat} (ended : Text.byteLength text ≤ offset) :
    Passes matcher text offset [offset] []
  | step {offset next : Nat} {offsets : List Nat} {image output : Text}
    (inside : offset < Text.byteLength text) (advances : Advances matcher text offset next image)
    (passes : Passes matcher text next offsets output) :
    Passes matcher text offset (offset :: offsets) (image ++ output)

/-- The byte offsets at which the segments of a text start, and its end. -/
def offsets (matcher : Matcher) (text : Text) : List Nat :=
  (matcher.segments text).scanl (fun offset segment => offset + Text.byteLength segment.source) 0

variable {matcher : Matcher} {front rest : Text} {c : Char}

/-- What a region is cut out of starts with it. -/
theorem cut_isPrefix {rule : Region.Rule} {text : Text} (h : Region.rule? text = some rule) :
    (rule.cut text).1 ≠ [] ∧ (rule.cut text).1 <+: text := by
  have hopener := Region.opener_isPrefix_of_rule? h
  have hspans : rule.Spans text (rule.cut text).1 := (Region.spans_iff hopener).2 rfl
  refine ⟨fun hnil => ?_, hspans.isPrefix.2⟩
  have hempty := hspans.isPrefix.1
  rw [hnil, List.prefix_nil] at hempty
  exact Region.opener_ne_nil (Region.mem_rules_of_rule? h) hempty

theorem isSlice_endOffset {rule : Region.Rule} {text : Text} (h : Region.rule? text = some rule)
    (front : Text) :
    Text.IsSlice (front ++ text) (Text.byteLength front)
      (rule.endOffset (front ++ text) (Text.byteLength front)) (rule.cut text).1 := by
  rw [Region.endOffset_append]
  exact Text.isSlice_append_iff.2 ⟨(cut_isPrefix h).2, rfl⟩

/-- A step goes from the start of a segment to its end, and puts out the image of the segment. -/
theorem advances_iff {next : Nat} {image : Text} :
    matcher.Advances (front ++ c :: rest) (Text.byteLength front) next image ↔
      next = Text.byteLength (front ++ (matcher.next c rest).source) ∧
        image = (matcher.next c rest).image := by
  have hhere := Text.dropBytes?_append front (c :: rest)
  constructor
  · intro h
    cases h with
    | region here opens slice =>
      obtain rfl := Option.some.inj (hhere.symm.trans here)
      obtain rfl := slice.eq (isSlice_endOffset opens front)
      simp [Matcher.next, opens, Segment.source, Segment.image, Region.endOffset_append]
    | word here outside found =>
      obtain rfl := Option.some.inj (hhere.symm.trans here)
      simp [Matcher.next, outside, found, Segment.source, Segment.image]
    | plain here outside nothing =>
      obtain ⟨rfl, rfl⟩ := List.cons.inj (Option.some.inj (hhere.symm.trans here))
      simp [Matcher.next, outside, nothing, Segment.source, Segment.image]
  · rintro ⟨rfl, rfl⟩
    unfold Matcher.next
    split
    · rename_i rule opens
      have hstep : matcher.Advances (front ++ c :: rest) (Text.byteLength front) _ _ :=
        .region hhere opens (isSlice_endOffset opens front)
      rwa [Region.endOffset_append] at hstep
    · rename_i outside
      split
      · rename_i pattern found
        simpa [Segment.source, Segment.image] using Advances.word hhere outside found
      · rename_i nothing
        simpa [Segment.source, Segment.image] using Advances.plain hhere outside nothing

/-- In front of the end of a text, a step is made at the start of a character. -/
theorem Advances.exists_eq_append {text image : Text} {offset next : Nat}
    (h : matcher.Advances text offset next image) (inside : offset < Text.byteLength text) :
    ∃ front c rest, text = front ++ c :: rest ∧ Text.byteLength front = offset := by
  have hhere : ∃ rest, Text.dropBytes? offset text = some rest := by
    cases h with
    | region here => exact ⟨_, here⟩
    | word here => exact ⟨_, here⟩
    | plain here => exact ⟨_, here⟩
  obtain ⟨rest, hrest⟩ := hhere
  obtain ⟨front, rfl, rfl⟩ := Text.dropBytes?_eq_some_iff.1 hrest
  cases rest with
  | nil => simp at inside
  | cons c rest => exact ⟨front, c, rest, rfl, rfl⟩

theorem Advances.eq {text image image' : Text} {offset next next' : Nat}
    (h : matcher.Advances text offset next image) (h' : matcher.Advances text offset next' image')
    (inside : offset < Text.byteLength text) : next = next' ∧ image = image' := by
  obtain ⟨front, c, rest, rfl, rfl⟩ := h.exists_eq_append inside
  obtain ⟨rfl, rfl⟩ := advances_iff.1 h
  obtain ⟨rfl, rfl⟩ := advances_iff.1 h'
  exact ⟨rfl, rfl⟩

/-- There is one way to go through a text. -/
theorem Passes.eq {text output output' : Text} {offset : Nat} {offsets offsets' : List Nat}
    (h : matcher.Passes text offset offsets output)
    (h' : matcher.Passes text offset offsets' output') : offsets = offsets' ∧ output = output' := by
  induction h generalizing offsets' output' with
  | done ended =>
    cases h' with
    | done => exact ⟨rfl, rfl⟩
    | step inside => omega
  | step inside advances passes ih =>
    cases h' with
    | done ended => omega
    | step _ advances' passes' =>
      obtain ⟨rfl, rfl⟩ := advances.eq advances' inside
      obtain ⟨rfl, rfl⟩ := ih passes'
      exact ⟨rfl, rfl⟩

/-! ## The words of a lexicon -/

section Lexicon

variable (lexicon : Lexicon) (direction : Direction)

/-- A segment is a piece of the text, and not empty. -/
theorem source_next (c : Char) (rest : Text) :
    ((ofLexicon lexicon direction).next c rest).source ≠ [] ∧
      ((ofLexicon lexicon direction).next c rest).source <+: c :: rest := by
  unfold next
  split
  · rename_i rule opens
    exact cut_isPrefix opens
  · split
    · rename_i pattern found
      obtain ⟨hpattern, hp⟩ := mem_patterns_of_longest? found
      exact ⟨(Lexicon.mem_patterns_iff_mem_replacements.1 hpattern).1, hp⟩
    · simp [Segment.source]

/-- The loop goes on with what follows the segment. -/
theorem source_next_append_drop (c : Char) (rest : Text) :
    ((ofLexicon lexicon direction).next c rest).source ++
      rest.drop (((ofLexicon lexicon direction).next c rest).source.length - 1) = c :: rest := by
  obtain ⟨hne, hp⟩ := source_next lexicon direction c rest
  generalize ((ofLexicon lexicon direction).next c rest).source = source at hne hp
  cases source with
  | nil => exact absurd rfl hne
  | cons c' source =>
    obtain ⟨rfl, back, rfl⟩ := List.cons_prefix_cons.1 hp
    simp

variable {lexicon direction}

/-- A step goes forward, to the start of a character or the end of the text. -/
theorem Advances.lt_and_isOffset {text image : Text} {offset next : Nat}
    (h : (ofLexicon lexicon direction).Advances text offset next image)
    (inside : offset < Text.byteLength text) : offset < next ∧ Text.IsOffset text next := by
  obtain ⟨front, c, rest, rfl, rfl⟩ := h.exists_eq_append inside
  obtain ⟨rfl, -⟩ := advances_iff.1 h
  have hpos := Text.byteLength_pos (source_next lexicon direction c rest).1
  constructor
  · simp only [Text.byteLength_append]
    omega
  · rw [← source_next_append_drop lexicon direction c rest, ← List.append_assoc]
    exact Text.isOffset_of_append

/-- The offsets that the loop visits go up to the end of the text, and none is inside a character. -/
theorem Passes.offsets_sound {text output : Text} {offset : Nat} {offsets : List Nat}
    (h : (ofLexicon lexicon direction).Passes text offset offsets output)
    (hoffset : Text.IsOffset text offset) :
    offsets.Pairwise (· < ·) ∧ (∀ o ∈ offsets, offset ≤ o ∧ Text.IsOffset text o) ∧
      offsets.getLast? = some (Text.byteLength text) := by
  induction h with
  | done ended =>
    have hle := hoffset.le_byteLength
    simp only [List.pairwise_singleton, List.mem_singleton, forall_eq, List.getLast?_singleton,
      Option.some.injEq]
    exact ⟨trivial, ⟨Nat.le_refl _, hoffset⟩, by omega⟩
  | step inside advances passes ih =>
    obtain ⟨hlt, hnext⟩ := advances.lt_and_isOffset inside
    obtain ⟨hpairwise, hmem, hlast⟩ := ih hnext
    refine ⟨?_, ?_, ?_⟩
    · refine List.pairwise_cons.2 ⟨fun o ho => ?_, hpairwise⟩
      have := (hmem o ho).1
      omega
    · intro o ho
      rcases List.mem_cons.1 ho with rfl | ho
      · exact ⟨Nat.le_refl _, hoffset⟩
      · have := (hmem o ho).1
        exact ⟨by omega, (hmem o ho).2⟩
    · rw [List.getLast?_cons, hlast]
      rfl

/-- The loop goes through a text segment by segment. -/
theorem passes_segments (front text : Text) :
    (ofLexicon lexicon direction).Passes (front ++ text) (Text.byteLength front)
      (((ofLexicon lexicon direction).segments text).scanl
        (fun offset segment => offset + Text.byteLength segment.source) (Text.byteLength front))
      (((ofLexicon lexicon direction).segments text).flatMap Segment.image) := by
  generalize hmatcher : ofLexicon lexicon direction = matcher
  fun_induction segments matcher text generalizing front with
  | case1 => exact .done (by simp)
  | case2 c rest segment ih =>
    subst hmatcher
    have hrest := ih (front ++ segment.source)
    rw [List.append_assoc, source_next_append_drop lexicon direction c rest] at hrest
    rw [List.scanl_cons, List.flatMap_cons]
    refine .step ?_ (advances_iff.2 ⟨rfl, rfl⟩) ?_
    · have := c.utf8Size_pos
      simp only [Text.byteLength_append, Text.byteLength_cons]
      omega
    · simpa using hrest

theorem passes_offsets (lexicon : Lexicon) (direction : Direction) (text : Text) :
    (ofLexicon lexicon direction).Passes text 0 ((ofLexicon lexicon direction).offsets text)
      (lexicon.substitute direction text) :=
  passes_segments [] text

/-- The loop ends. It visits the ends of the segments, and puts out the text with its words
replaced. -/
theorem passes_iff {text output : Text} {offsets : List Nat} :
    (ofLexicon lexicon direction).Passes text 0 offsets output ↔
      offsets = (ofLexicon lexicon direction).offsets text ∧
        output = lexicon.substitute direction text := by
  have hpasses := passes_offsets lexicon direction text
  constructor
  · intro h
    exact h.eq hpasses
  · rintro ⟨rfl, rfl⟩
    exact hpasses

end Lexicon

end Matcher

/-- A region ends at the first closer behind its opener, or at the end of the text. The loop over the
offsets of a text ends, whatever the lexicon is: it visits the ends of the segments in turn, none of
which is inside a character, and the last of which is the end of the text. -/
theorem endsAt_endOffset_and_passes_iff (text : Text) :
    (∀ start rest rule, Text.dropBytes? start text = some rest → Region.rule? rest = some rule →
        rule.EndsAt text start (rule.endOffset text start)) ∧
      ∀ (lexicon : Lexicon) (direction : Direction),
        (∀ offsets output, (Matcher.ofLexicon lexicon direction).Passes text 0 offsets output ↔
            offsets = (Matcher.ofLexicon lexicon direction).offsets text ∧
              output = lexicon.substitute direction text) ∧
          ((Matcher.ofLexicon lexicon direction).offsets text).Pairwise (· < ·) ∧
          (∀ offset ∈ (Matcher.ofLexicon lexicon direction).offsets text,
            Text.IsOffset text offset) ∧
          ((Matcher.ofLexicon lexicon direction).offsets text).getLast? =
            some (Text.byteLength text) := by
  refine ⟨fun start rest rule hrest hrule => ?_, fun lexicon direction => ?_⟩
  · obtain ⟨front, rfl, rfl⟩ := Text.dropBytes?_eq_some_iff.1 hrest
    rw [Region.endOffset_append]
    exact ((Region.spans_iff (Region.opener_isPrefix_of_rule? hrule)).2 rfl).endsAt front
  · have hzero : Text.IsOffset text 0 := ⟨[], text, rfl, rfl⟩
    obtain ⟨hpairwise, hmem, hlast⟩ :=
      (Matcher.passes_offsets lexicon direction text).offsets_sound hzero
    exact ⟨fun offsets output => Matcher.passes_iff, hpairwise, fun o ho => (hmem o ho).2, hlast⟩

/-- A comment that starts with a dash of three bytes, behind a word of characters of two bytes. -/
theorem passes_over_dash_comment :
    let text := "до—[[до]]д".toList
    let rule : Region.Rule := ⟨"—[[".toList, "]]".toList⟩
    let lexicon := Lexicon.ofPairs [("до".toList, "do".toList), ("д".toList, [])]
    Text.dropBytes? 4 text = some "—[[до]]д".toList ∧
      Region.rule? "—[[до]]д".toList = some rule ∧ rule.EndsAt text 4 15 ∧
      (Matcher.ofLexicon lexicon .forward).Passes text 0 [0, 4, 15, 17] "do—[[до]]".toList ∧
      [0, 4, 15, 17].Pairwise (· < ·) ∧ Text.byteLength text = 17 := by
  intro text rule lexicon
  obtain ⟨hends, hloop⟩ := endsAt_endOffset_and_passes_iff text
  obtain ⟨hpasses, hpairwise, -, -⟩ := hloop lexicon .forward
  have hoffsets : [0, 4, 15, 17] = (Matcher.ofLexicon lexicon .forward).offsets text := by
    decide +kernel
  have hrest : Text.dropBytes? 4 text = some "—[[до]]д".toList := by decide +kernel
  have hrule : Region.rule? "—[[до]]д".toList = some rule := by decide +kernel
  have hstop : rule.endOffset text 4 = 15 := by decide +kernel
  have hend := hends 4 _ rule hrest hrule
  rw [hstop] at hend
  rw [← hoffsets] at hpairwise
  exact ⟨hrest, hrule, hend, (hpasses _ _).2 ⟨hoffsets, by decide +kernel⟩, hpairwise,
    by decide +kernel⟩

end Wordbridge
