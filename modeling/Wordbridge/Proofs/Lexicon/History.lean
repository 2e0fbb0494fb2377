import Mathlib.Order.WellFounded
import Wordbridge.Proofs.Lexicon.Representation

/-!
# Lexicons as histories of writes

A lexicon stands for the list of the writes that it came about by
(`HasHistory`): a merge adds the history of the other lexicon, and sorting adds
nothing. Its entries in the order of their ranks are the last write of each
word (`writes_of_hasHistory`), and this is all that can be read from it:

* `History.value?`, `History.age`: the counterpart that the last write of a
  word gave it, and how long ago that was;
* `History.Replaces`: what is put in the place of a word in a direction;
* `mem_patterns_iff`: the patterns of a lexicon are the replacements of its
  history.
-/

namespace Wordbridge

/-- Writes of words with their counterparts, the first one first. -/
abbrev History := List (Text × Text)

namespace History

/-- The counterpart that the last write of the word gave it. -/
def value? (history : History) (key : Text) : Option Text :=
  history.reverse.lookup key

/-- The number of writes since the last write of the word. -/
def age (history : History) (key : Text) : Nat :=
  history.reverse.findIdx fun write => write.1 == key

/-- Adds a write, and takes out an earlier one of the same word. -/
def overwrite (history : History) (write : Text × Text) : History :=
  history.filter (fun w => w.1 ≠ write.1) ++ [write]

/-- The last write of each word, in order. -/
def latest (history : History) : History :=
  history.foldl overwrite []

/-- The writes put `image` in the place of `word`. In reverse, a counterpart gives way to the word
that was written last of those that have it. -/
def Replaces (history : History) : Direction → Text → Text → Prop
  | .forward, word, image => history.value? word = some image
  | .reverse, word, image =>
    history.value? image = some word ∧
      ∀ key, history.value? key = some word → history.age image ≤ history.age key

theorem value?_append_singleton (history : History) (write : Text × Text) (key : Text) :
    value? (history ++ [write]) key =
      if key = write.1 then some write.2 else history.value? key := by
  rw [value?, List.reverse_append, List.reverse_singleton, List.singleton_append, List.lookup_cons]
  by_cases h : key = write.1
  · rw [if_pos h, beq_iff_eq.2 h]
  · rw [if_neg h, beq_eq_false_iff_ne.2 h, value?]

theorem age_append_singleton (history : History) (write : Text × Text) (key : Text) :
    age (history ++ [write]) key = if write.1 = key then 0 else history.age key + 1 := by
  rw [age, List.reverse_append, List.reverse_singleton, List.singleton_append, List.findIdx_cons]
  by_cases h : write.1 = key
  · rw [if_pos h, beq_iff_eq.2 h, cond_true]
  · rw [if_neg h, beq_eq_false_iff_ne.2 h, cond_false, age]

/-- What later writes say comes first. -/
theorem value?_append (history later : History) (key : Text) :
    value? (history ++ later) key = (later.value? key).or (history.value? key) := by
  rw [value?, List.reverse_append, List.lookup_append]
  rfl

theorem age_lt_length_iff {history : History} {key : Text} :
    history.age key < history.length ↔ (history.value? key).isSome = true := by
  induction history using List.reverseRecOn with
  | nil => simp [age, value?]
  | append_singleton history write ih =>
    rw [age_append_singleton, value?_append_singleton, List.length_append, List.length_singleton]
    by_cases h : write.1 = key
    · simp [h]
    · rw [if_neg h, if_neg (Ne.symm h), ← ih]
      omega

/-- A word has the age of its last write among the later ones, if there is one. -/
theorem age_append (history later : History) (key : Text) :
    age (history ++ later) key =
      if (later.value? key).isSome then later.age key else later.length + history.age key := by
  have hlt := @age_lt_length_iff later key
  rw [age] at hlt
  rw [age, List.reverse_append, List.findIdx_append, List.length_reverse, age, age, Nat.add_comm]
  exact if_congr hlt rfl rfl

/-- Words of the same age are the same. -/
theorem eq_of_age_eq {history : History} {key other : Text}
    (hw : (history.value? key).isSome = true) (h : history.age key = history.age other) :
    key = other := by
  have hlt := age_lt_length_iff.2 hw
  have hkey := List.findIdx_getElem (w := by rw [List.length_reverse]; exact hlt)
  have hother := List.findIdx_getElem (w := by rw [List.length_reverse]; exact h ▸ hlt)
  simp only [age] at h
  simp only [h] at hkey
  exact (beq_iff_eq.1 hkey).symm.trans (beq_iff_eq.1 hother)

theorem latest_append (history other : History) :
    latest (history ++ other) = other.foldl overwrite (latest history) :=
  List.foldl_append

theorem latest_append_singleton (history : History) (write : Text × Text) :
    latest (history ++ [write]) = overwrite (latest history) write :=
  latest_append history [write]

theorem mem_overwrite {history : History} {write w : Text × Text} :
    w ∈ overwrite history write ↔ (w ∈ history ∧ w.1 ≠ write.1) ∨ w = write := by
  simp [overwrite, List.mem_filter]

theorem mem_of_value? {history : History} {key value : Text} (h : history.value? key = some value) :
    (key, value) ∈ history := by
  obtain ⟨before, after, heq, -⟩ := List.lookup_eq_some_iff.1 h
  rw [← List.mem_reverse, heq]
  exact List.mem_append_right _ (List.mem_cons_self ..)

/-- The last writes are the values. -/
theorem mem_latest_iff {history : History} {key value : Text} :
    (key, value) ∈ history.latest ↔ history.value? key = some value := by
  induction history using List.reverseRecOn with
  | nil => simp [latest, value?]
  | append_singleton history write ih =>
    rw [latest_append_singleton, mem_overwrite, value?_append_singleton, ih]
    by_cases h : key = write.1
    · rw [if_pos h, Option.some.injEq]
      refine ⟨fun hor => ?_, fun hv => .inr (Prod.ext h hv.symm)⟩
      rcases hor with ⟨-, hne⟩ | rfl
      · exact absurd h hne
      · rfl
    · rw [if_neg h]
      refine ⟨fun hor => ?_, fun hv => .inl ⟨hv, h⟩⟩
      rcases hor with ⟨hv, -⟩ | rfl
      · exact hv
      · exact absurd rfl h

/-- The last writes stand in order of age, the oldest first. -/
theorem pairwise_age_latest (history : History) :
    history.latest.Pairwise fun a b => history.age b.1 < history.age a.1 := by
  induction history using List.reverseRecOn with
  | nil => exact .nil
  | append_singleton history write ih =>
    rw [latest_append_singleton, overwrite, List.pairwise_append]
    refine ⟨?_, List.pairwise_singleton _ _, ?_⟩
    · refine (ih.filter _).imp_of_mem fun {a b} ha hb hab => ?_
      have ha := of_decide_eq_true (List.mem_filter.1 ha).2
      have hb := of_decide_eq_true (List.mem_filter.1 hb).2
      rw [age_append_singleton, age_append_singleton, if_neg (Ne.symm ha), if_neg (Ne.symm hb)]
      omega
    · intro a ha b hb
      have ha := of_decide_eq_true (List.mem_filter.1 ha).2
      rw [List.mem_singleton.1 hb, age_append_singleton, age_append_singleton, if_pos rfl,
        if_neg (Ne.symm ha)]
      omega

/-- A write does not depend on the earlier writes of its word. -/
theorem foldl_overwrite_filter (start writes : History) (key : Text) :
    (writes.foldl overwrite start).filter (fun w => w.1 ≠ key) =
      (writes.filter (fun w => w.1 ≠ key)).foldl overwrite (start.filter fun w => w.1 ≠ key) := by
  induction writes generalizing start with
  | nil => rfl
  | cons write writes ih =>
    rw [List.foldl_cons, ih, overwrite, List.filter_append, List.filter_filter]
    by_cases h : write.1 = key
    · rw [List.filter_cons_of_neg (by simp [h]), List.filter_cons_of_neg (by simp [h]),
        List.filter_nil, List.append_nil]
      subst h
      simp only [Bool.and_self]
    · rw [List.filter_cons_of_pos (by simp [h]), List.filter_cons_of_pos (by simp [h]),
        List.filter_nil, List.foldl_cons, overwrite, List.filter_filter]
      simp only [Bool.and_comm]

/-- Adding the last writes of a history has the same effect as adding all of them. -/
theorem foldl_overwrite_latest (start writes : History) :
    writes.latest.foldl overwrite start = writes.foldl overwrite start := by
  induction writes using List.reverseRecOn with
  | nil => rfl
  | append_singleton writes write ih =>
    rw [latest_append_singleton, overwrite, List.foldl_append, List.foldl_append, List.foldl_cons,
      List.foldl_nil, List.foldl_cons, List.foldl_nil, overwrite, overwrite, ← ih]
    have hf := foldl_overwrite_filter start ((latest writes).filter fun w => w.1 ≠ write.1) write.1
    rw [List.filter_filter] at hf
    simp only [Bool.and_self] at hf
    rw [hf, foldl_overwrite_filter]

/-- Of the words with one counterpart, one was written last. -/
theorem exists_replaces_reverse {history : History} {key word : Text}
    (h : history.value? key = some word) : ∃ image, history.Replaces .reverse word image := by
  obtain ⟨image, hi, hmin⟩ := (measure history.age).wf.has_min
    {key | history.value? key = some word} ⟨key, h⟩
  exact ⟨image, hi, fun other ho => Nat.le_of_not_lt (hmin other ho)⟩

theorem length_latest_le (history : History) : history.latest.length ≤ history.length := by
  induction history using List.reverseRecOn with
  | nil => exact Nat.le_refl 0
  | append_singleton history write ih =>
    rw [latest_append_singleton, overwrite, List.length_append, List.length_append]
    have := List.length_filter_le (fun w => decide (w.1 ≠ write.1)) (latest history)
    omega

end History

namespace Lexicon

/-! ## The history of a lexicon -/

/-- The lexicon came about by these writes. -/
inductive HasHistory : Lexicon → History → Prop
  | empty : HasHistory empty []
  | insert {lexicon : Lexicon} {history : History} (key value : Text) :
    HasHistory lexicon history → HasHistory (lexicon.insert key value) (history ++ [(key, value)])
  | ofPairs (words : List (Text × Text)) : HasHistory (ofPairs words) words
  | merge {lexicon other : Lexicon} {history history' : History} :
    HasHistory lexicon history → HasHistory other history' →
      HasHistory (lexicon.merge other) (history ++ history')
  | sort {lexicon : Lexicon} {history : History} :
    HasHistory lexicon history → HasHistory lexicon.sort history

/-- The words with their counterparts, in the order of their last writes. -/
def writes (lexicon : Lexicon) : History :=
  lexicon.byRank.map fun e => (e.key, e.value)

theorem mem_writes_iff {lexicon : Lexicon} {key value : Text} :
    (key, value) ∈ lexicon.writes ↔
      ∃ e ∈ lexicon.entries.toList, e.key = key ∧ e.value = value := by
  simp [writes, mem_byRank]

theorem writes_empty : empty.writes = [] :=
  rfl

/-- A new write comes last, in the place of the earlier one of its word. -/
theorem writes_insert {lexicon : Lexicon} (h : lexicon.WellFormed) (key value : Text) :
    (lexicon.insert key value).writes = lexicon.writes.overwrite (key, value) := by
  have hb : (lexicon.insert key value).byRank =
      lexicon.byRank.filter (fun e => e.key ≠ key) ++ [⟨key, value, lexicon.nextRank⟩] := by
    refine byRank_eq_of_perm ?_ ?_
    · exact ((lexicon.byRank_perm.filter _).append_right _).trans
        (entries_insert_perm h key value).symm
    · refine List.pairwise_append.2 ⟨(pairwise_byRank h).filter _, List.pairwise_singleton _ _, ?_⟩
      intro e he e' he'
      rw [List.mem_singleton.1 he']
      exact h.rank_lt e (mem_byRank.1 (List.mem_filter.1 he).1)
  rw [writes, hb, List.map_append, List.map_singleton, History.overwrite, writes, List.filter_map]
  rfl

theorem writes_insertAll {lexicon : Lexicon} (h : lexicon.WellFormed) (words : List (Text × Text)) :
    (lexicon.insertAll words).writes = words.foldl History.overwrite lexicon.writes := by
  induction words generalizing lexicon with
  | nil => rfl
  | cons word words ih =>
    rw [insertAll_cons, ih (wellFormed_insert h word.1 word.2), writes_insert h, List.foldl_cons]

/-- Sorting keeps the order of the writes. -/
theorem writes_sort {lexicon : Lexicon} (h : lexicon.WellFormed) :
    lexicon.sort.writes = lexicon.writes := by
  have hb : lexicon.sort.byRank = lexicon.byRank :=
    byRank_eq_of_perm (lexicon.byRank_perm.trans (entries_sort_perm lexicon).symm)
      (pairwise_byRank h)
  rw [writes, hb, writes]

theorem wellFormed_of_hasHistory {lexicon : Lexicon} {history : History}
    (h : lexicon.HasHistory history) : lexicon.WellFormed := by
  induction h with
  | empty => exact wellFormed_empty
  | insert key value _ ih => exact wellFormed_insert ih key value
  | ofPairs words => exact wellFormed_insertAll wellFormed_empty words
  | merge _ _ ih _ => exact wellFormed_insertAll ih _
  | sort _ ih => exact wellFormed_sort ih

/-- What is left of its history in a lexicon: the last write of each word, in order. -/
theorem writes_of_hasHistory {lexicon : Lexicon} {history : History}
    (h : lexicon.HasHistory history) : lexicon.writes = history.latest := by
  induction h with
  | empty => exact writes_empty
  | insert key value h ih =>
    rw [writes_insert (wellFormed_of_hasHistory h), ih, History.latest_append_singleton]
  | ofPairs words => exact writes_insertAll wellFormed_empty words
  | @merge lexicon other history history' h h' ih ih' =>
    have hm : (lexicon.merge other).writes = other.writes.foldl History.overwrite lexicon.writes :=
      writes_insertAll (wellFormed_of_hasHistory h) other.writes
    rw [hm, ih, ih', History.foldl_overwrite_latest, History.latest_append]
  | sort h ih => rw [writes_sort (wellFormed_of_hasHistory h), ih]

/-- The counterpart of a word is that of its last write. -/
theorem get?_eq_value? {lexicon : Lexicon} {history : History} (h : lexicon.HasHistory history)
    (key : Text) : lexicon.get? key = history.value? key := by
  refine Option.ext fun value => ?_
  rw [get?_eq_some_iff (wellFormed_of_hasHistory h), ← mem_writes_iff, writes_of_hasHistory h,
    History.mem_latest_iff]

/-- A write gives the counterpart of the last write of the word before it, and is part of the
history from then on. -/
theorem getThenInsert?_of_hasHistory {lexicon : Lexicon} {history : History}
    (h : lexicon.HasHistory history) (key value : Text) :
    (lexicon.getThenInsert? key value).1 = history.value? key ∧
      (lexicon.getThenInsert? key value).2.HasHistory (history ++ [(key, value)]) :=
  ⟨get?_eq_value? h key, .insert key value h⟩

theorem mem_of_get? {lexicon : Lexicon} {history : History} (h : lexicon.HasHistory history)
    {key value : Text} (hv : lexicon.get? key = some value) : (key, value) ∈ history :=
  History.mem_of_value? ((get?_eq_value? h key).symm.trans hv)

/-- The entries by rank are in the order of their last writes, the oldest first. -/
theorem pairwise_age_byRank {lexicon : Lexicon} {history : History}
    (h : lexicon.HasHistory history) :
    lexicon.byRank.Pairwise fun a b => history.age b.key < history.age a.key := by
  have hages := history.pairwise_age_latest
  rwa [← writes_of_hasHistory h, writes, List.pairwise_map] at hages

theorem rank_le_iff_age_le {lexicon : Lexicon} {history : History} (h : lexicon.HasHistory history)
    {e e' : Entry} (he : e ∈ lexicon.entries.toList) (he' : e' ∈ lexicon.entries.toList) :
    e.rank ≤ e'.rank ↔ history.age e'.key ≤ history.age e.key := by
  have hboth := (pairwise_byRank (wellFormed_of_hasHistory h)).and (pairwise_age_byRank h)
  refine List.Pairwise.forall_of_forall_of_flip (R := fun a b : Entry =>
    a.rank ≤ b.rank ↔ history.age b.key ≤ history.age a.key) (fun _ _ => by simp)
    (hboth.imp fun hab => ?_) (hboth.imp fun hab => ?_) (mem_byRank.2 he) (mem_byRank.2 he')
  · omega
  · simp only [flip]; omega

/-! ## What can be read from it -/

theorem mem_patterns_iff_mem_replacements {lexicon : Lexicon} {direction : Direction}
    {p : Pattern} :
    p ∈ lexicon.patterns direction ↔ p.word ≠ [] ∧ p ∈ lexicon.replacements direction := by
  rw [patterns, mem_stableSort, List.mem_filter, decide_eq_true_eq, and_comm]

theorem isLatest_iff {lexicon : Lexicon} {e : Entry} :
    lexicon.isLatest e = true ↔
      ∀ e' ∈ lexicon.entries.toList, e'.value = e.value → e'.rank ≤ e.rank := by
  rw [isLatest, ← Array.all_toList, List.all_eq_true]
  refine forall₂_congr fun e' _ => ?_
  simp only [ne_eq, decide_not, Bool.or_eq_true, Bool.not_eq_true', decide_eq_false_iff_not,
    decide_eq_true_eq]
  exact Decidable.imp_iff_not_or.symm

theorem value?_eq_some_iff_exists_entry {lexicon : Lexicon} {history : History}
    (h : lexicon.HasHistory history) {key value : Text} :
    history.value? key = some value ↔
      ∃ e ∈ lexicon.entries.toList, e.key = key ∧ e.value = value := by
  rw [← get?_eq_value? h, get?_eq_some_iff (wellFormed_of_hasHistory h)]

/-- An entry is the last written of those with its value if its history puts its word in the place
of that value. -/
theorem isLatest_iff_replaces {lexicon : Lexicon} {history : History}
    (h : lexicon.HasHistory history) {e : Entry} (he : e ∈ lexicon.entries.toList) :
    lexicon.isLatest e = true ↔ history.Replaces .reverse e.value e.key := by
  rw [isLatest_iff, History.Replaces]
  constructor
  · intro hl
    refine ⟨(value?_eq_some_iff_exists_entry h).2 ⟨e, he, rfl, rfl⟩, fun key hk => ?_⟩
    obtain ⟨e', he', rfl, hval⟩ := (value?_eq_some_iff_exists_entry h).1 hk
    exact (rank_le_iff_age_le h he' he).1 (hl e' he' hval)
  · rintro ⟨-, hl⟩ e' he' hval
    rw [rank_le_iff_age_le h he' he]
    exact hl e'.key ((value?_eq_some_iff_exists_entry h).2 ⟨e', he', rfl, hval⟩)

/-- The patterns of a lexicon are the replacements of its history. -/
theorem mem_patterns_iff {lexicon : Lexicon} {history : History} (h : lexicon.HasHistory history)
    {direction : Direction} {p : Pattern} :
    p ∈ lexicon.patterns direction ↔ p.word ≠ [] ∧ history.Replaces direction p.word p.image := by
  rw [mem_patterns_iff_mem_replacements]
  refine and_congr_right fun _ => ?_
  obtain ⟨word, image⟩ := p
  cases direction with
  | forward =>
    rw [History.Replaces, value?_eq_some_iff_exists_entry h, replacements, List.mem_map]
    refine exists_congr fun e => and_congr_right fun _ => ?_
    rw [Pattern.mk.injEq]
  | reverse =>
    rw [replacements, List.mem_map]
    constructor
    · rintro ⟨e, he, heq⟩
      obtain ⟨rfl, rfl⟩ := Pattern.mk.inj heq
      obtain ⟨he, hl⟩ := List.mem_filter.1 he
      exact (isLatest_iff_replaces h he).1 hl
    · intro hr
      obtain ⟨e, he, rfl, rfl⟩ := (value?_eq_some_iff_exists_entry h).1 hr.1
      exact ⟨e, List.mem_filter.2 ⟨he, (isLatest_iff_replaces h he).2 hr⟩, rfl⟩

/-- Each word is replaced in one way. -/
theorem nodup_words_patterns {lexicon : Lexicon} (h : lexicon.WellFormed) (direction : Direction) :
    ((lexicon.patterns direction).map Pattern.word).Nodup := by
  have hr : ((lexicon.replacements direction).map Pattern.word).Nodup := by
    cases direction with
    | forward =>
      rw [replacements, List.map_map]
      exact h.keys_nodup
    | reverse =>
      rw [replacements, List.map_map]
      refine List.Nodup.map_on (fun e he e' he' heq => ?_) ?_
      · obtain ⟨he, hl⟩ := List.mem_filter.1 he
        obtain ⟨he', hl'⟩ := List.mem_filter.1 he'
        have hle := isLatest_iff.1 hl e' he' heq.symm
        have hge := isLatest_iff.1 hl' e he heq
        exact h.eq_of_rank_eq he he' (by omega)
      · exact (List.Nodup.of_map _ h.keys_nodup).filter _
  have hp := (stableSort_perm (fun a b : Pattern => decide (b.word.length ≤ a.word.length))
    ((lexicon.replacements direction).filter fun p => p.word ≠ [])).map Pattern.word
  exact hp.nodup_iff.2 (hr.sublist (List.filter_sublist.map _))

/-- The patterns of a word are one pattern. -/
theorem filter_patterns_eq_singleton {lexicon : Lexicon} (h : lexicon.WellFormed)
    {direction : Direction} {p : Pattern} (hp : p ∈ lexicon.patterns direction) :
    (lexicon.patterns direction).filter (fun q => q.word = p.word) = [p] := by
  have hn := nodup_words_patterns h direction
  obtain ⟨before, after, heq⟩ := List.append_of_mem hp
  rw [heq, List.map_append, List.map_cons, List.nodup_middle, ← List.map_append,
    List.nodup_cons] at hn
  have hne : ∀ q ∈ before ++ after, ¬ q.word = p.word := fun q hq hqp =>
    hn.1 (hqp ▸ List.mem_map_of_mem hq)
  rw [heq, List.filter_append, List.filter_cons_of_pos (by simp),
    List.filter_eq_nil_iff.2 fun q hq => by simpa using hne q (List.mem_append_left _ hq),
    List.filter_eq_nil_iff.2 fun q hq => by simpa using hne q (List.mem_append_right _ hq)]
  rfl

/-- Longer words come before shorter ones. -/
theorem pairwise_length_patterns (lexicon : Lexicon) (direction : Direction) :
    (lexicon.patterns direction).Pairwise fun p q => q.word.length ≤ p.word.length :=
  pairwise_stableSort (r := fun p q : Pattern => q.word.length ≤ p.word.length)
    (fun _ _ => Nat.le_total _ _) (fun h h' => Nat.le_trans h' h) _

theorem nextRank_insertAll (lexicon : Lexicon) (words : List (Text × Text)) :
    (lexicon.insertAll words).nextRank = lexicon.nextRank + words.length := by
  induction words generalizing lexicon with
  | nil => rfl
  | cons word words ih => rw [insertAll_cons, ih, nextRank_insert, List.length_cons]; omega

/-- The next rank never exceeds the number of writes. -/
theorem nextRank_le_length {lexicon : Lexicon} {history : History}
    (h : lexicon.HasHistory history) : lexicon.nextRank ≤ history.length := by
  induction h with
  | empty => exact Nat.le_refl 0
  | insert key value _ ih => rw [nextRank_insert, List.length_append, List.length_singleton]; omega
  | ofPairs words =>
    rw [ofPairs, nextRank_insertAll]
    exact Nat.le_of_eq (Nat.zero_add _)
  | @merge lexicon other history history' _ h' ih _ =>
    have hn : (lexicon.merge other).nextRank = lexicon.nextRank + other.writes.length :=
      nextRank_insertAll lexicon other.writes
    have hl := history'.length_latest_le
    rw [hn, writes_of_hasHistory h', List.length_append]
    omega
  | sort _ ih => exact ih

/-- What can be read from a lexicon is what its history says. A word has the counterpart of its
last write. The patterns of a direction are the replacements of its non-empty words: one for each
word or, in reverse, for each counterpart, which gives way to the word written last. Longer words
come first. No rank is reached that there was no write for. -/
theorem get?_and_patterns_of_hasHistory {lexicon : Lexicon} {history : History}
    (h : lexicon.HasHistory history) :
    (∀ key, lexicon.get? key = history.value? key) ∧
      (∀ p, p ∈ lexicon.patterns .forward ↔
        p.word ≠ [] ∧ history.value? p.word = some p.image) ∧
      (∀ p, p ∈ lexicon.patterns .reverse ↔
        p.word ≠ [] ∧ history.value? p.image = some p.word ∧
          ∀ key, history.value? key = some p.word → history.age p.image ≤ history.age key) ∧
      (∀ key word, word ≠ [] → history.value? key = some word →
        ∃ p ∈ lexicon.patterns .reverse, p.word = word) ∧
      (∀ direction, ((lexicon.patterns direction).map Pattern.word).Nodup ∧
        (lexicon.patterns direction).Pairwise fun p q => q.word.length ≤ p.word.length) ∧
      lexicon.nextRank ≤ history.length := by
  refine ⟨get?_eq_value? h, fun p => mem_patterns_iff h, fun p => mem_patterns_iff h, ?_, ?_,
    nextRank_le_length h⟩
  · intro key word hne hk
    obtain ⟨image, hi⟩ := History.exists_replaces_reverse hk
    exact ⟨⟨word, image⟩, (mem_patterns_iff h).2 ⟨hne, hi⟩, rfl⟩
  · intro direction
    exact ⟨nodup_words_patterns (wellFormed_of_hasHistory h) direction,
      pairwise_length_patterns lexicon direction⟩

/-- A word that is written again is the last one, also when it stood before the others that share
its counterpart. -/
theorem replaces_of_written_again :
    ⟨"x".toList, "open".toList⟩ ∈
        ((ofPairs [("do".toList, "x".toList), ("begin".toList, "x".toList)]).merge
          ((ofPairs [("open".toList, "x".toList), ("do".toList, "x".toList)]).insert
            "open".toList "x".toList).sort).patterns .reverse ∧
      History.Replaces ([("do".toList, "x".toList), ("begin".toList, "x".toList)] ++
        ([("open".toList, "x".toList), ("do".toList, "x".toList)] ++ [("open".toList, "x".toList)]))
        .reverse "x".toList "open".toList := by
  have h := get?_and_patterns_of_hasHistory (.merge
    (.ofPairs [("do".toList, "x".toList), ("begin".toList, "x".toList)])
    (.sort (.insert "open".toList "x".toList
      (.ofPairs [("open".toList, "x".toList), ("do".toList, "x".toList)]))))
  have hp : ⟨"x".toList, "open".toList⟩ ∈
      ((ofPairs [("do".toList, "x".toList), ("begin".toList, "x".toList)]).merge
        ((ofPairs [("open".toList, "x".toList), ("do".toList, "x".toList)]).insert
          "open".toList "x".toList).sort).patterns .reverse := by decide +kernel
  exact ⟨hp, ((h.2.2.1 _).1 hp).2⟩

end Lexicon

end Wordbridge
