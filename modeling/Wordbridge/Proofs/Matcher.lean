import Wordbridge.Proofs.Lexicon.History
import Wordbridge.Proofs.Text
import Wordbridge.Substitution

/-!
# The longest word

A matcher looks only at the patterns that start with the first character of
the text, and finds what a search of all patterns finds (`longest?_eq_find?`).
In the matcher of a lexicon that is the longest word that the text starts with:

* `longest?_eq_some_iff`, `longest?_eq_none_iff`: what is found, in terms of
  the history of the lexicon;
* `longest?_congr`: lexicons with the same patterns find the same.
-/

namespace Wordbridge

/-- A text is a word of the history in a direction: it is not empty and was written, or, in
reverse, is the counterpart of a word that was. -/
def History.IsWord (history : History) : Direction → Text → Prop
  | .forward, word => word ≠ [] ∧ ∃ image, history.value? word = some image
  | .reverse, word => word ≠ [] ∧ ∃ key, history.value? key = some word

theorem History.isWord_iff_exists_replaces {history : History} {direction : Direction}
    {word : Text} :
    history.IsWord direction word ↔ word ≠ [] ∧ ∃ image, history.Replaces direction word image := by
  cases direction with
  | forward => rfl
  | reverse =>
    refine and_congr_right fun _ => ⟨fun ⟨key, h⟩ => exists_replaces_reverse h, ?_⟩
    rintro ⟨image, h, -⟩
    exact ⟨image, h⟩

namespace Matcher

/-! ## Buckets -/

theorem getD_addToBucket (buckets : Std.TreeMap Char (List Nat)) (p : Pattern) (position : Nat)
    (c : Char) :
    (addToBucket buckets p position).getD c [] =
      buckets.getD c [] ++ if p.word.head? = some c then [position] else [] := by
  unfold addToBucket
  split
  · rename_i hw
    rw [hw, List.head?_nil, if_neg (by simp), List.append_nil]
  · rename_i first tail hw
    rw [Std.TreeMap.getD_insert, hw, List.head?_cons]
    by_cases h : first = c
    · subst h
      rw [if_pos Std.ReflCmp.compare_self, if_pos rfl]
    · rw [if_neg (fun he => h (Std.LawfulEqCmp.eq_of_compare he)),
        if_neg (fun he => h (Option.some.inj he)), List.append_nil]

/-- The bucket of a character holds the positions of the patterns that start with it, in order. -/
theorem getD_foldl_addToBucket (patterns : List (Pattern × Nat))
    (buckets : Std.TreeMap Char (List Nat)) (c : Char) :
    (patterns.foldl (fun buckets (p, i) => addToBucket buckets p i) buckets).getD c [] =
      buckets.getD c [] ++ (patterns.filter fun x => x.1.word.head? = some c).map Prod.snd := by
  induction patterns generalizing buckets with
  | nil => rw [List.foldl_nil, List.filter_nil, List.map_nil, List.append_nil]
  | cons x patterns ih =>
    rw [List.foldl_cons, ih, getD_addToBucket, List.append_assoc, List.filter_cons]
    by_cases h : x.1.word.head? = some c
    · rw [if_pos h, if_pos (by simpa using h), List.map_cons, List.singleton_append]
    · rw [if_neg h, if_neg (by simpa using h), List.nil_append]

theorem getD_buckets_ofPatterns (patterns : List Pattern) (c : Char) :
    (ofPatterns patterns).buckets.getD c [] =
      (patterns.zipIdx.filter fun x => x.1.word.head? = some c).map Prod.snd := by
  rw [ofPatterns, getD_foldl_addToBucket, Std.TreeMap.getD_emptyc, List.nil_append]

theorem matchAt?_ofPatterns {patterns : List Pattern} {x : Pattern × Nat}
    (hx : x ∈ patterns.zipIdx) (text : Text) :
    (ofPatterns patterns).matchAt? text x.2 =
      if x.1.word.isPrefixOf text then some x.1 else none := by
  have hget : patterns[x.2]? = some x.1 := List.mk_mem_zipIdx_iff_getElem?.1 hx
  rw [matchAt?, ofPatterns, List.getElem?_toArray, hget, Option.filter_some]

/-- The patterns of other first characters are not found anyway. -/
theorem findSome?_bucket {matcher : Matcher} {c : Char} {text : Text} {l : List (Pattern × Nat)}
    (hmatch : ∀ x ∈ l, matcher.matchAt? (c :: text) x.2 =
      if x.1.word.isPrefixOf (c :: text) then some x.1 else none)
    (hne : ∀ x ∈ l, x.1.word ≠ []) :
    ((l.filter fun x => x.1.word.head? = some c).map Prod.snd).findSome?
        (matcher.matchAt? (c :: text)) =
      (l.map Prod.fst).find? fun p => p.word.isPrefixOf (c :: text) := by
  induction l with
  | nil => rfl
  | cons x l ih =>
    have hx := hmatch x (List.mem_cons_self ..)
    have ih := ih (fun y hy => hmatch y (List.mem_cons_of_mem _ hy))
      (fun y hy => hne y (List.mem_cons_of_mem _ hy))
    rw [List.filter_cons, List.map_cons, List.find?_cons]
    by_cases hp : x.1.word.isPrefixOf (c :: text) = true
    · have hh : x.1.word.head? = some c :=
        Text.head?_of_isPrefix (hne x (List.mem_cons_self ..)) (List.isPrefixOf_iff_prefix.1 hp)
      rw [if_pos (by simpa using hh), List.map_cons, List.findSome?_cons, hx, if_pos hp, hp]
    · rw [Bool.not_eq_true] at hp
      split
      · rw [List.map_cons, List.findSome?_cons, hx, hp]
        exact ih
      · rw [hp]
        exact ih

/-- Looking only into the bucket of the first character loses no pattern. -/
theorem longest?_eq_find? {patterns : List Pattern} (hne : ∀ p ∈ patterns, p.word ≠ [])
    (text : Text) :
    (ofPatterns patterns).longest? text = patterns.find? fun p => p.word.isPrefixOf text := by
  cases text with
  | nil =>
    rw [longest?, eq_comm, List.find?_eq_none]
    intro p hp h
    exact hne p hp (List.prefix_nil.1 (List.isPrefixOf_iff_prefix.1 h))
  | cons c text =>
    have hmem : ∀ x ∈ patterns.zipIdx, x.1 ∈ patterns := fun x hx =>
      List.mem_of_getElem? (List.mk_mem_zipIdx_iff_getElem?.1 hx)
    rw [longest?, getD_buckets_ofPatterns, findSome?_bucket
      (fun x hx => matchAt?_ofPatterns hx (c :: text)) (fun x hx => hne x.1 (hmem x hx)),
      List.zipIdx_map_fst]

/-! ## The matcher of a lexicon -/

variable {lexicon : Lexicon} {history : History} {direction : Direction} {text : Text}

theorem longest?_ofLexicon :
    (ofLexicon lexicon direction).longest? text =
      (lexicon.patterns direction).find? fun p => p.word.isPrefixOf text :=
  longest?_eq_find? (fun _ hp => (Lexicon.mem_patterns_iff_mem_replacements.1 hp).1) text

theorem isWord_of_mem_patterns (h : lexicon.HasHistory history) {p : Pattern}
    (hp : p ∈ lexicon.patterns direction) : history.IsWord direction p.word := by
  obtain ⟨hne, hi⟩ := (Lexicon.mem_patterns_iff h).1 hp
  exact History.isWord_iff_exists_replaces.2 ⟨hne, p.image, hi⟩

theorem exists_mem_patterns_of_isWord (h : lexicon.HasHistory history) {word : Text}
    (hw : history.IsWord direction word) : ∃ p ∈ lexicon.patterns direction, p.word = word := by
  obtain ⟨hne, image, hi⟩ := History.isWord_iff_exists_replaces.1 hw
  exact ⟨⟨word, image⟩, (Lexicon.mem_patterns_iff h).2 ⟨hne, hi⟩, rfl⟩

/-- What is found is a pattern, and its word starts the text. -/
theorem mem_patterns_of_longest? {p : Pattern}
    (h : (ofLexicon lexicon direction).longest? text = some p) :
    p ∈ lexicon.patterns direction ∧ p.word <+: text := by
  rw [longest?_ofLexicon] at h
  have hpre : p.word.isPrefixOf text = true := (List.find?_eq_some_iff_append.1 h).1
  exact ⟨List.mem_of_find?_eq_some h, List.isPrefixOf_iff_prefix.1 hpre⟩

/-- It is as long as any word that the text starts with. -/
theorem length_le_of_longest? {p q : Pattern}
    (h : (ofLexicon lexicon direction).longest? text = some p) (hq : q ∈ lexicon.patterns direction)
    (hp : q.word <+: text) : q.word.length ≤ p.word.length := by
  rw [longest?_ofLexicon, List.find?_eq_some_iff_append] at h
  obtain ⟨-, before, after, heq, hb⟩ := h
  have hs := lexicon.pairwise_length_patterns direction
  rw [heq] at hq hs
  rcases List.mem_append.1 hq with hq | hq
  · have := hb q hq
    rw [List.isPrefixOf_iff_prefix.2 hp] at this
    cases this
  · rcases List.mem_cons.1 hq with rfl | hq
    · exact Nat.le_refl _
    · exact List.rel_of_pairwise_cons (List.pairwise_append.1 hs).2.1 hq

theorem longest?_eq_none_iff (h : lexicon.HasHistory history) :
    (ofLexicon lexicon direction).longest? text = none ↔
      ∀ word, history.IsWord direction word → ¬ word <+: text := by
  rw [longest?_ofLexicon, List.find?_eq_none]
  simp only [List.isPrefixOf_iff_prefix]
  constructor
  · intro hn word hw
    obtain ⟨p, hp, rfl⟩ := exists_mem_patterns_of_isWord h hw
    exact hn p hp
  · exact fun hn p hp => hn p.word (isWord_of_mem_patterns h hp)

/-- The longest word that the text starts with is found, with what replaces it. -/
theorem longest?_eq_some_iff (h : lexicon.HasHistory history) {p : Pattern} :
    (ofLexicon lexicon direction).longest? text = some p ↔
      p.word <+: text ∧ history.IsWord direction p.word ∧
        (∀ word, history.IsWord direction word → word <+: text → word.length ≤ p.word.length) ∧
        history.Replaces direction p.word p.image := by
  constructor
  · intro hl
    obtain ⟨hp, hpre⟩ := mem_patterns_of_longest? hl
    refine ⟨hpre, isWord_of_mem_patterns h hp, fun word hw hpre' => ?_,
      ((Lexicon.mem_patterns_iff h).1 hp).2⟩
    obtain ⟨q, hq, rfl⟩ := exists_mem_patterns_of_isWord h hw
    exact length_le_of_longest? hl hq hpre'
  · rintro ⟨hpre, hw, hmax, hi⟩
    have hp : p ∈ lexicon.patterns direction :=
      (Lexicon.mem_patterns_iff h).2 ⟨(History.isWord_iff_exists_replaces.1 hw).1, hi⟩
    match hl : (ofLexicon lexicon direction).longest? text with
    | none => exact absurd hpre ((longest?_eq_none_iff h).1 hl p.word hw)
    | some q =>
      obtain ⟨hq, hqpre⟩ := mem_patterns_of_longest? hl
      have hle := hmax q.word (isWord_of_mem_patterns h hq) hqpre
      have hge := length_le_of_longest? hl hp hpre
      have hword : q.word = p.word :=
        (List.prefix_of_prefix_length_le hqpre hpre hle).eq_of_length (by omega)
      have hn := Lexicon.nodup_words_patterns (Lexicon.wellFormed_of_hasHistory h) direction
      rw [List.inj_on_of_nodup_map hn hq hp hword]

/-- What is found depends on which patterns there are, and not on their order. -/
theorem longest?_congr {other : Lexicon} {history' : History} {direction' : Direction}
    (h : lexicon.HasHistory history) (h' : other.HasHistory history')
    (hp : ∀ p, p ∈ lexicon.patterns direction ↔ p ∈ other.patterns direction') (text : Text) :
    (ofLexicon lexicon direction).longest? text = (ofLexicon other direction').longest? text := by
  have hr : ∀ {word image : Text}, word ≠ [] →
      (history.Replaces direction word image ↔ history'.Replaces direction' word image) := by
    intro word image hne
    have := hp ⟨word, image⟩
    rwa [Lexicon.mem_patterns_iff h, Lexicon.mem_patterns_iff h', and_congr_right_iff,
      forall_prop_of_true hne] at this
  have hw : ∀ word, history.IsWord direction word ↔ history'.IsWord direction' word := by
    intro word
    rw [History.isWord_iff_exists_replaces, History.isWord_iff_exists_replaces]
    exact and_congr_right fun hne => exists_congr fun _ => hr hne
  refine Option.ext fun p => ?_
  rw [longest?_eq_some_iff h, longest?_eq_some_iff h']
  simp only [hw]
  refine and_congr_right fun _ => and_congr_right fun hword => and_congr_right fun _ => ?_
  exact hr (History.isWord_iff_exists_replaces.1 hword).1

end Matcher

end Wordbridge
