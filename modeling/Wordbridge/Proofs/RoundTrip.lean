import Wordbridge.Proofs.Scan

/-!
# Forward and back

Substitution in the reverse direction undoes substitution in the forward
direction on texts whose pieces are exchanged one by one (`Exchanges`): the
forward pass puts an image in the place of the piece, and the reverse pass
puts the piece back. Two ways to keep the pieces apart:

* `substitute_reverse_forward_of_prefixFree`: no word starts another one, and
  none starts like a region;
* `substitute_reverse_forward_of_tokenRow`: words may start other words, but
  separators stand between the tokens.
-/

namespace Wordbridge

namespace Lexicon

/-- In front of the texts that may follow, the forward pass puts `image` in the place of `piece`,
and the reverse pass puts `piece` in the place of `image`. -/
def Exchanges (lexicon : Lexicon) (follows : Text → Prop) (piece image : Text) : Prop :=
  ∀ rest, follows rest →
    lexicon.substitute .forward (piece ++ rest) = image ++ lexicon.substitute .forward rest ∧
      lexicon.substitute .reverse (image ++ rest) = piece ++ lexicon.substitute .reverse rest

variable {lexicon : Lexicon} {history : History} {follows : Text → Prop}

/-- A piece that is exchanged comes back if what follows it does. -/
theorem Exchanges.roundTrip {piece image rest : Text} (h : lexicon.Exchanges follows piece image)
    (hf : follows rest) (hf' : follows (lexicon.substitute .forward rest))
    (hrest : lexicon.substitute .reverse (lexicon.substitute .forward rest) = rest) :
    lexicon.substitute .reverse (lexicon.substitute .forward (piece ++ rest)) = piece ++ rest := by
  rw [(h rest hf).1, (h _ hf').2, hrest]

/-- Segments that are the images of each other are exchanged. -/
theorem exchanges_of_starts (h : lexicon.HasHistory history) (segment segment' : Segment)
    (hs : ∀ rest, follows rest → Starts history .forward (segment.source ++ rest) segment)
    (hs' : ∀ rest, follows rest → Starts history .reverse (segment'.source ++ rest) segment')
    (hi : segment.image = segment'.source) (hi' : segment'.image = segment.source) :
    lexicon.Exchanges follows segment.source segment'.source := by
  intro rest hf
  rw [substitute_append h (hs rest hf), substitute_append h (hs' rest hf), hi, hi']
  exact ⟨rfl, rfl⟩

/-- A closed region is left alone. -/
theorem exchanges_region (h : lexicon.HasHistory history) {region : Text}
    (hr : Region.IsClosed region) : lexicon.Exchanges follows region region := by
  have hs : ∀ direction rest, Starts history direction (region ++ rest) (.region region) := by
    intro direction rest
    obtain ⟨rule, first, spans⟩ := Region.exists_rule_of_isClosed hr rest
    exact .region first spans
  exact exchanges_of_starts h (.region region) (.region region)
    (fun rest _ => hs .forward rest) (fun rest _ => hs .reverse rest) rfl rfl

/-- An unclosed region at the end is left alone. -/
theorem substitute_unclosed (h : lexicon.HasHistory history) {region : Text}
    (hr : Region.IsUnclosed region) (direction : Direction) :
    lexicon.substitute direction region = region := by
  obtain ⟨rule, body, first, htext, never⟩ := hr
  have hs : Starts history direction (Segment.source (.region region) ++ []) (.region region) := by
    rw [List.append_nil]
    exact .region first (.unclosed htext never)
  have := substitute_append h hs
  rwa [List.append_nil, substitute_nil, List.append_nil] at this

/-- The text starts with no region, no word and no counterpart. -/
def NothingStarts (lexicon : Lexicon) (text : Text) : Prop :=
  (∀ rule ∈ Region.rules, ¬ rule.opener <+: text) ∧
    ∀ key value, lexicon.get? key = some value →
      (key ≠ [] → ¬ key <+: text) ∧ (value ≠ [] → ¬ value <+: text)

theorem exchanges_plain (h : lexicon.HasHistory history) {c : Char}
    (hn : ∀ rest, follows rest → lexicon.NothingStarts (c :: rest)) :
    lexicon.Exchanges follows [c] [c] := by
  refine exchanges_of_starts h (.plain c) (.plain c)
    (fun rest hf => .plain rfl (hn rest hf).1 ?_) (fun rest hf => .plain rfl (hn rest hf).1 ?_)
    rfl rfl
  · rintro word ⟨hne, image, hv⟩
    exact ((hn rest hf).2 word image (by rw [get?_eq_value? h, hv])).1 hne
  · rintro word ⟨hne, key, hv⟩
    exact ((hn rest hf).2 key word (by rw [get?_eq_value? h, hv])).2 hne

/-- A text at whose characters nothing starts is left alone. -/
theorem exchanges_text (h : lexicon.HasHistory history) {text : Text}
    (hn : ∀ front c tail, text = front ++ c :: tail → ∀ rest, follows rest →
      lexicon.NothingStarts (c :: (tail ++ rest))) :
    lexicon.Exchanges follows text text := by
  intro rest hf
  induction text with
  | nil => exact ⟨rfl, rfl⟩
  | cons c text ih =>
    have hc : lexicon.Exchanges (· = text ++ rest) [c] [c] :=
      exchanges_plain h fun _ he => he ▸ hn [] c text rfl rest hf
    obtain ⟨hcf, hcr⟩ := hc _ rfl
    obtain ⟨hf, hr⟩ := ih fun front c' tail he => hn (c :: front) c' tail (by rw [he]; rfl)
    rw [hf] at hcf
    rw [hr] at hcr
    exact ⟨hcf, hcr⟩

/-- A word is exchanged with its counterpart if no other word has that, and both are the longest of
their kind where they stand. -/
theorem exchanges_entry (h : lexicon.HasHistory history) {key value : Text}
    (hv : lexicon.get? key = some value) (hne : key ≠ [] ∧ value ≠ [])
    (only : ∀ other, lexicon.get? other = some value → other = key)
    (outside : ∀ rest, follows rest → ∀ rule ∈ Region.rules,
      ¬ rule.opener <+: key ++ rest ∧ ¬ rule.opener <+: value ++ rest)
    (longest : ∀ rest, follows rest → ∀ key' value', lexicon.get? key' = some value' →
      (key' <+: key ++ rest → key'.length ≤ key.length) ∧
        (value' <+: value ++ rest → value'.length ≤ value.length)) :
    lexicon.Exchanges follows key value := by
  have hv' : history.value? key = some value := by rw [← get?_eq_value? h, hv]
  refine exchanges_of_starts h (.word ⟨key, value⟩) (.word ⟨value, key⟩)
    (fun rest hf => .word (fun rule hr => (outside rest hf rule hr).1) (List.prefix_append _ _)
      ⟨hne.1, value, hv'⟩ ?_ hv')
    (fun rest hf => .word (fun rule hr => (outside rest hf rule hr).2) (List.prefix_append _ _)
      ⟨hne.2, key, hv'⟩ ?_ ⟨hv', fun other ho => ?_⟩) rfl rfl
  · rintro word ⟨-, image, hw⟩
    exact (longest rest hf word image (by rw [get?_eq_value? h, hw])).1
  · rintro word ⟨-, other, hw⟩
    exact (longest rest hf other word (by rw [get?_eq_value? h, hw])).2
  · rw [only other (by rw [get?_eq_value? h, ho])]

/-! ## Words that do not start each other -/

/-- No word and no counterpart is empty, starts like a region, or starts another of its kind. -/
structure PrefixFree (lexicon : Lexicon) : Prop where
  ne_nil : ∀ key value, lexicon.get? key = some value → key ≠ [] ∧ value ≠ []
  keys : ∀ key value key' value', lexicon.get? key = some value →
    lexicon.get? key' = some value' → key <+: key' → key = key'
  values : ∀ key value key' value', lexicon.get? key = some value →
    lexicon.get? key' = some value' → value <+: value' → key = key'
  outside : ∀ key value, lexicon.get? key = some value → ∀ c ∈ Region.openerChars,
    key.head? ≠ some c ∧ value.head? ≠ some c

/-- The pieces that a text may be put together from without separators: a word, a closed region, and
a character that no word, no counterpart and no region starts with. -/
inductive IsPiece (lexicon : Lexicon) : Text → Prop
  | key {key value : Text} (h : lexicon.get? key = some value) : IsPiece lexicon key
  | region {region : Text} (h : Region.IsClosed region) : IsPiece lexicon region
  | plain {c : Char}
    (words : ∀ key value, lexicon.get? key = some value → key.head? ≠ some c ∧ value.head? ≠ some c)
    (regions : ∀ rule ∈ Region.rules, rule.opener.head? ≠ some c) : IsPiece lexicon [c]

/-- A text that starts like no region stays outside of regions, whatever follows it. -/
theorem not_opener_isPrefix_append {text : Text} (hne : text ≠ [])
    (hc : ∀ c ∈ Region.openerChars, text.head? ≠ some c) (rest : Text) :
    ∀ rule ∈ Region.rules, ¬ rule.opener <+: text ++ rest := by
  cases text with
  | nil => exact absurd rfl hne
  | cons c text => exact Region.not_opener_isPrefix (fun hm => hc c hm rfl) (text ++ rest)

/-- Of two texts that start one text, one starts the other. -/
theorem length_le_of_prefixFree {text other rest : Text} (hp : other <+: text ++ rest)
    (hfree : text <+: other → text = other) : other.length ≤ text.length := by
  rcases List.prefix_or_prefix_of_prefix hp (List.prefix_append text rest) with h | h
  · exact h.length_le
  · rw [hfree h]

theorem exists_exchanges_of_isPiece (h : lexicon.HasHistory history) (hfree : lexicon.PrefixFree)
    {piece : Text} (hp : lexicon.IsPiece piece) :
    ∃ image, lexicon.Exchanges (fun _ => True) piece image := by
  cases hp with
  | @key _ value hv =>
    have hne := hfree.ne_nil piece value hv
    refine ⟨value, exchanges_entry h hv hne (fun other ho => ?_) (fun rest _ rule hr => ?_)
      fun rest _ key' value' hv' => ⟨fun hp => ?_, fun hp => ?_⟩⟩
    · exact (hfree.values piece value other value hv ho List.prefix_rfl).symm
    · have hc := hfree.outside piece value hv
      exact ⟨not_opener_isPrefix_append hne.1 (fun c hm => (hc c hm).1) rest rule hr,
        not_opener_isPrefix_append hne.2 (fun c hm => (hc c hm).2) rest rule hr⟩
    · exact length_le_of_prefixFree hp fun hk => hfree.keys piece value key' value' hv hv' hk
    · refine length_le_of_prefixFree hp fun hvv => ?_
      rw [hfree.values piece value key' value' hv hv' hvv, hv', Option.some.injEq] at hv
      exact hv.symm
  | region hr => exact ⟨piece, exchanges_region h hr⟩
  | @plain c words regions =>
    refine ⟨[c], exchanges_plain h fun rest _ => ⟨?_, fun key value hv => ⟨?_, ?_⟩⟩⟩
    · refine Region.not_opener_isPrefix (fun hm => ?_) rest
      obtain ⟨rule, hr, hc⟩ := List.mem_filterMap.1 hm
      exact regions rule hr hc
    · exact fun hne hp => (words key value hv).1 (Text.head?_of_isPrefix hne hp)
    · exact fun hne hp => (words key value hv).2 (Text.head?_of_isPrefix hne hp)

/-- With words that do not start each other, the reverse pass undoes the forward pass on every text
that is put together from words, closed regions and characters that start none of them. -/
theorem substitute_reverse_forward_of_prefixFree (h : lexicon.HasHistory history)
    (hfree : lexicon.PrefixFree) {pieces : List Text}
    (hp : ∀ piece ∈ pieces, lexicon.IsPiece piece) :
    lexicon.substitute .reverse (lexicon.substitute .forward pieces.flatten) = pieces.flatten := by
  induction pieces with
  | nil => rw [List.flatten_nil, substitute_nil, substitute_nil]
  | cons piece pieces ih =>
    obtain ⟨image, he⟩ := exists_exchanges_of_isPiece h hfree (hp piece (List.mem_cons_self ..))
    rw [List.flatten_cons]
    exact he.roundTrip trivial trivial (ih fun p hm => hp p (List.mem_cons_of_mem _ hm))

/-- Writes of words that do not start each other, as can be checked write by write. -/
theorem prefixFree_of_history (h : lexicon.HasHistory history)
    (hw : ∀ w ∈ history, (w.1 ≠ [] ∧ w.2 ≠ []) ∧
      (w.1.head? ∉ Region.openerChars.map some ∧ w.2.head? ∉ Region.openerChars.map some) ∧
      ∀ w' ∈ history, (w.1 <+: w'.1 → w.1 = w'.1) ∧ (w.2 <+: w'.2 → w.1 = w'.1)) :
    lexicon.PrefixFree where
  ne_nil _ _ hv := (hw _ (mem_of_get? h hv)).1
  keys _ _ _ _ hv hv' := ((hw _ (mem_of_get? h hv)).2.2 _ (mem_of_get? h hv')).1
  values _ _ _ _ hv hv' := ((hw _ (mem_of_get? h hv)).2.2 _ (mem_of_get? h hv')).2
  outside _ _ hv c hc := by
    obtain ⟨hk, hval⟩ := (hw _ (mem_of_get? h hv)).2.1
    exact ⟨fun he => hk (he ▸ List.mem_map_of_mem hc), fun he => hval (he ▸ List.mem_map_of_mem hc)⟩

/-- Words, a quoted word and a blank, without anything between them. -/
theorem substitute_reverse_forward_of_words :
    (ofPairs [("если".toList, "if".toList), ("конец".toList, "end".toList)]).substitute .reverse
      ((ofPairs [("если".toList, "if".toList), ("конец".toList, "end".toList)]).substitute .forward
        ["если".toList, "конец".toList, "'конец'".toList, [' '], "если".toList].flatten) =
      ["если".toList, "конец".toList, "'конец'".toList, [' '], "если".toList].flatten := by
  have h := HasHistory.ofPairs [("если".toList, "if".toList), ("конец".toList, "end".toList)]
  refine substitute_reverse_forward_of_prefixFree h (prefixFree_of_history h (by decide)) ?_
  simp only [List.forall_mem_cons, List.not_mem_nil, false_imp_iff, implies_true, and_true]
  refine ⟨.key ((get?_eq_value? h _).trans rfl), .key ((get?_eq_value? h _).trans rfl),
    .region (by decide), .plain (fun key value hv => ?_) (by decide),
    .key ((get?_eq_value? h _).trans rfl)⟩
  have hw : ∀ w ∈ [("если".toList, "if".toList), ("конец".toList, "end".toList)],
      w.1.head? ≠ some ' ' ∧ w.2.head? ≠ some ' ' := by decide
  exact hw _ (mem_of_get? h hv)

/-! ## Tokens between separators -/

/-- No word and no counterpart is empty or starts with the opener of a region, and no two words have
one counterpart. -/
structure Reversible (lexicon : Lexicon) : Prop where
  ne_nil : ∀ key value, lexicon.get? key = some value → key ≠ [] ∧ value ≠ []
  injective : ∀ key key' value, lexicon.get? key = some value → lexicon.get? key' = some value →
    key = key'
  outside : ∀ key value, lexicon.get? key = some value → ∀ rule ∈ Region.rules,
    ¬ rule.opener <+: key ∧ ¬ rule.opener <+: value

/-- A character that occurs in no word, no counterpart and no opener. -/
def IsSeparator (lexicon : Lexicon) (c : Char) : Prop :=
  (∀ key value, lexicon.get? key = some value → c ∉ key ∧ c ∉ value) ∧
    ∀ rule ∈ Region.rules, c ∉ rule.opener

/-- A word, a closed region, or a text in which no word, no counterpart and no opener occurs. -/
inductive IsToken (lexicon : Lexicon) : Text → Prop
  | key {key value : Text} (h : lexicon.get? key = some value) : IsToken lexicon key
  | region {region : Text} (h : Region.IsClosed region) : IsToken lexicon region
  | filler {text : Text}
    (words : ∀ key value, lexicon.get? key = some value → ¬ key <:+: text ∧ ¬ value <:+: text)
    (regions : ∀ rule ∈ Region.rules, ¬ rule.opener <:+: text) : IsToken lexicon text

/-- Tokens with one or more separators from each to the next. The last one may be a region that is
not closed. -/
inductive IsTokenRow (lexicon : Lexicon) : Text → Prop
  | last {token : Text} (h : lexicon.IsToken token) : IsTokenRow lexicon token
  | unclosed {token : Text} (h : Region.IsUnclosed token) : IsTokenRow lexicon token
  | cons {token gap rest : Text} (h : lexicon.IsToken token) (hne : gap ≠ [])
    (hgap : ∀ c ∈ gap, lexicon.IsSeparator c) (hrest : IsTokenRow lexicon rest) :
    IsTokenRow lexicon (token ++ (gap ++ rest))

/-- Where a token may end: at the end of the text, or in front of a separator. -/
def AtBoundary (lexicon : Lexicon) (rest : Text) : Prop :=
  ∀ c, rest.head? = some c → lexicon.IsSeparator c

theorem atBoundary_nil : lexicon.AtBoundary [] := fun c hc => by cases hc

theorem atBoundary_append {gap : Text} (hne : gap ≠ []) (hgap : ∀ c ∈ gap, lexicon.IsSeparator c)
    (rest : Text) : lexicon.AtBoundary (gap ++ rest) := by
  cases gap with
  | nil => exact absurd rfl hne
  | cons c gap =>
    rintro c' hc
    rw [← Option.some.inj hc]
    exact hgap c (List.mem_cons_self ..)

/-- Openers do not reach beyond a boundary. -/
theorem AtBoundary.opener {text rest : Text} (hb : lexicon.AtBoundary rest) {rule : Region.Rule}
    (hr : rule ∈ Region.rules) (hp : rule.opener <+: text ++ rest) : rule.opener <+: text :=
  Text.isPrefix_of_isPrefix_append hp fun c hc => (hb c hc).2 rule hr

/-- Words do not reach beyond a boundary. -/
theorem AtBoundary.key {text rest key value : Text} (hb : lexicon.AtBoundary rest)
    (hv : lexicon.get? key = some value) (hp : key <+: text ++ rest) : key <+: text :=
  Text.isPrefix_of_isPrefix_append hp fun c hc => ((hb c hc).1 key value hv).1

/-- Counterparts do not reach beyond a boundary. -/
theorem AtBoundary.value {text rest key value : Text} (hb : lexicon.AtBoundary rest)
    (hv : lexicon.get? key = some value) (hp : value <+: text ++ rest) : value <+: text :=
  Text.isPrefix_of_isPrefix_append hp fun c hc => ((hb c hc).1 key value hv).2

/-- Nothing starts with a separator. -/
theorem IsSeparator.nothingStarts {c : Char} (h : lexicon.IsSeparator c) (text : Text) :
    lexicon.NothingStarts (c :: text) := by
  have hmem : ∀ mark : Text, c ∉ mark → mark ≠ [] → ¬ mark <+: c :: text := fun mark hc hne hp =>
    hc (List.mem_of_mem_head? (Text.head?_of_isPrefix hne hp))
  refine ⟨fun rule hr => hmem _ (h.2 rule hr) (Region.opener_ne_nil hr), fun key value hv => ?_⟩
  exact ⟨hmem key (h.1 key value hv).1, hmem value (h.1 key value hv).2⟩

/-- A token in front of a boundary is exchanged with an image. -/
theorem exists_exchanges_of_isToken (h : lexicon.HasHistory history) (hrev : lexicon.Reversible)
    {token : Text} (ht : lexicon.IsToken token) :
    ∃ image, lexicon.Exchanges lexicon.AtBoundary token image := by
  cases ht with
  | @key value hv =>
    refine ⟨value, exchanges_entry h hv (hrev.ne_nil token value hv) (fun other ho => ?_)
      (fun rest hb rule hr => ⟨fun hp => ?_, fun hp => ?_⟩)
      fun rest hb key' value' hv' => ⟨fun hp => ?_, fun hp => ?_⟩⟩
    · exact hrev.injective other token value ho hv
    · exact (hrev.outside token value hv rule hr).1 (hb.opener hr hp)
    · exact (hrev.outside token value hv rule hr).2 (hb.opener hr hp)
    · exact (hb.key hv' hp).length_le
    · exact (hb.value hv' hp).length_le
  | region hr => exact ⟨token, exchanges_region h hr⟩
  | filler words regions =>
    refine ⟨token, exchanges_text h fun front c tail he rest hb => ?_⟩
    have hin : ∀ {mark : Text}, mark <+: c :: tail → mark <:+: token := fun hp =>
      hp.isInfix.trans ⟨front, [], by rw [List.append_nil, he]⟩
    refine ⟨fun rule hr hp => regions rule hr (hin (hb.opener hr hp)), fun key value hv => ⟨?_, ?_⟩⟩
    · exact fun _ hp => (words key value hv).1 (hin (hb.key hv hp))
    · exact fun _ hp => (words key value hv).2 (hin (hb.value hv hp))

/-- The reverse pass undoes the forward pass on every row of tokens. -/
theorem substitute_reverse_forward_of_tokenRow (h : lexicon.HasHistory history)
    (hrev : lexicon.Reversible) {text : Text} (hrow : lexicon.IsTokenRow text) :
    lexicon.substitute .reverse (lexicon.substitute .forward text) = text := by
  induction hrow with
  | @last token ht =>
    obtain ⟨image, he⟩ := exists_exchanges_of_isToken h hrev ht
    have := he.roundTrip atBoundary_nil (by rw [substitute_nil]; exact atBoundary_nil)
      (by rw [substitute_nil, substitute_nil])
    rwa [List.append_nil] at this
  | unclosed hr => rw [substitute_unclosed h hr, substitute_unclosed h hr]
  | @cons token gap rest ht hne hgap _ ih =>
    obtain ⟨image, he⟩ := exists_exchanges_of_isToken h hrev ht
    have hg : lexicon.Exchanges (fun _ => True) gap gap :=
      exchanges_text h fun front c tail he rest _ =>
        (hgap c (by rw [he]; simp)).nothingStarts (tail ++ rest)
    refine he.roundTrip (atBoundary_append hne hgap rest) ?_ (hg.roundTrip trivial trivial ih)
    rw [(hg rest trivial).1]
    exact atBoundary_append hne hgap _

theorem isSeparator_of_history (h : lexicon.HasHistory history) {c : Char}
    (hw : ∀ w ∈ history, c ∉ w.1 ∧ c ∉ w.2) (hr : ∀ rule ∈ Region.rules, c ∉ rule.opener) :
    lexicon.IsSeparator c :=
  ⟨fun _ _ hv => hw _ (mem_of_get? h hv), hr⟩

/-- Writes of different counterparts outside of regions, as can be checked write by write. -/
theorem reversible_of_history (h : lexicon.HasHistory history)
    (hw : ∀ w ∈ history, (w.1 ≠ [] ∧ w.2 ≠ []) ∧
      (∀ rule ∈ Region.rules, ¬ rule.opener <+: w.1 ∧ ¬ rule.opener <+: w.2) ∧
      ∀ w' ∈ history, w.2 = w'.2 → w.1 = w'.1) : lexicon.Reversible where
  ne_nil _ _ hv := (hw _ (mem_of_get? h hv)).1
  injective _ _ _ hv hv' := (hw _ (mem_of_get? h hv)).2.2 _ (mem_of_get? h hv') rfl
  outside _ _ hv := (hw _ (mem_of_get? h hv)).2.1

end Lexicon

end Wordbridge
