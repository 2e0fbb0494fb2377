import Mathlib.Logic.ExistsUnique
import Wordbridge.Proofs.WordDirective

/-!
# The search for directives

A search goes through a text from the left. Where something of the form of a
directive starts, one is found: its word ends at the first separator, and its
counterpart at the first terminator behind that (`IsFound`). The search then
goes on behind it, and else behind the character that it came to (`IsSearch`).
There is one search of a text, and its pieces are those that the program cuts
(`isSearch_iff_eq_pieces`).

Where the number sign stands only at the start of directives, it takes no more
than this to say what is extracted from a source file: the directives that the
search finds, and the characters between them.
-/

namespace Wordbridge

namespace WordDirective

/-- A directive with the keyword, `rest` behind it, is found: its word ends at the first separator
behind the keyword, and its counterpart at the first terminator behind that, all on one line. -/
structure IsFound (keyword : Text) (d : WordDirective) (rest : Text) : Prop where
  keyword_eq : d.keyword = keyword
  onLine : d.OnLine
  key_first : Text.FirstAt separator (d.key ++ separator ++ (d.value ++ terminator ++ rest)) d.key
    (d.value ++ terminator ++ rest)
  value_first : Text.FirstAt terminator (d.value ++ terminator ++ rest) d.value rest

/-- The pieces are directives that are found from the left, and characters at which nothing of the
form of a directive starts. -/
inductive IsSearch (keyword : Text) : List Piece → Prop
  | nil : IsSearch keyword []
  | directive {d : WordDirective} {ps : List Piece} (found : IsFound keyword d (render ps))
    (rest : IsSearch keyword ps) : IsSearch keyword (.directive d :: ps)
  | plain {c : Char} {ps : List Piece}
    (nothing : ∀ d : WordDirective, d.keyword = keyword → d.OnLine → ¬ d.source <+: c :: render ps)
    (rest : IsSearch keyword ps) : IsSearch keyword (.plain c :: ps)

variable {keyword : Text} {ps : List Piece}

/-! ## The pieces of the search -/

theorem isFound_iff {d : WordDirective} {rest : Text} :
    IsFound keyword d rest ↔ start? [keyword] (d.source ++ rest) = some (d, rest) := by
  rw [start?_singleton, startingWith?_eq_some_iff]
  constructor
  · exact fun h => ⟨h.keyword_eq, h.onLine, rfl, h.key_first, h.value_first⟩
  · rintro ⟨hkeyword, hline, -, hkey, hvalue⟩
    exact ⟨hkeyword, hline, hkey, hvalue⟩

theorem nothing_starts_iff {text : Text} :
    (∀ d : WordDirective, d.keyword = keyword → d.OnLine → ¬ d.source <+: text) ↔
      start? [keyword] text = none := by
  rw [start?_singleton, startingWith?_eq_none_iff]
  constructor
  · rintro h body rfl ⟨key, value, hkey, hvalue, rest, rfl⟩
    exact h ⟨keyword, key, value⟩ rfl ⟨hkey, hvalue⟩ ⟨rest, by simp [source]⟩
  · rintro h d rfl hline ⟨rest, rfl⟩
    obtain ⟨hsource, hbody⟩ := hasBody_of_source hline rest
    exact h _ hsource hbody

theorem isSearch_iff_isCut : IsSearch keyword ps ↔ IsCut [keyword] ps := by
  constructor
  · intro h
    induction h with
    | nil => exact .nil
    | directive found _ ih => exact .directive (isFound_iff.1 found) ih
    | plain nothing _ ih => exact .plain (nothing_starts_iff.1 nothing) ih
  · intro h
    induction h with
    | nil => exact .nil
    | directive h _ ih => exact .directive (isFound_iff.2 h) ih
    | plain h _ ih => exact .plain (nothing_starts_iff.2 h) ih

theorem pieces_of_start? {keywords : List Text} {text rest : Text} {d : WordDirective}
    (h : start? keywords text = some (d, rest)) :
    pieces keywords text = .directive d :: pieces keywords rest := by
  cases text with
  | nil => exact absurd (length_lt_of_start? h) (Nat.not_lt_zero _)
  | cons c text =>
    rw [pieces]
    split
    · rename_i hs
      rw [h] at hs
      cases hs
      rfl
    · rename_i hs
      rw [h] at hs
      cases hs

theorem pieces_cons_of_start?_eq_none {keywords : List Text} {text : Text} {c : Char}
    (h : start? keywords (c :: text) = none) :
    pieces keywords (c :: text) = .plain c :: pieces keywords text := by
  rw [pieces]
  split
  · rename_i hs
    rw [h] at hs
    cases hs
  · rfl

theorem IsCut.pieces_render {keywords : List Text} (h : IsCut keywords ps) :
    pieces keywords (render ps) = ps := by
  induction h with
  | nil => rw [render_nil, pieces]
  | directive h _ ih => rw [render_directive_cons, pieces_of_start? h, ih]
  | plain h _ ih => rw [render_plain_cons, pieces_cons_of_start?_eq_none h, ih]

/-- A text has one search, with the pieces that it is cut into. -/
theorem isSearch_iff_eq_pieces {text : Text} :
    render ps = text ∧ IsSearch keyword ps ↔ ps = pieces [keyword] text := by
  constructor
  · rintro ⟨rfl, h⟩
    exact (isSearch_iff_isCut.1 h).pieces_render.symm
  · rintro rfl
    exact ⟨render_pieces _ _, isSearch_iff_isCut.2 (isCut_pieces _ _)⟩

/-! ## Source files in which the number sign starts directives -/

/-- The number sign occurs in the piece only as the first character of a directive. -/
def Piece.SignAtStart : Piece → Prop
  | .directive d => '#' ∉ d.source.tail
  | .plain c => c ≠ '#'

instance : DecidablePred Piece.SignAtStart
  | .directive d => inferInstanceAs (Decidable ('#' ∉ d.source.tail))
  | .plain c => inferInstanceAs (Decidable (c ≠ '#'))

/-- Without other number signs, no keyword is in a directive, and no part of one in front of it. -/
theorem apart_of_signAtStart (h : ∀ p ∈ ps, p.SignAtStart) : Apart "#add ".toList ps := by
  induction ps with
  | nil => trivial
  | cons p ps ih =>
    have ih := ih fun p hp => h p (List.mem_cons_of_mem _ hp)
    have hp := h p (List.mem_cons_self ..)
    cases p with
    | directive d => exact ⟨fun hi => hp (hi.subset (by decide)), ih⟩
    | plain c =>
      refine ⟨fun run hrun hprefix => ?_, ih⟩
      obtain ⟨run', -, rfl⟩ := Option.map_eq_some_iff.1 hrun
      exact hp (List.cons_prefix_cons.1 hprefix).1

/-- There is one search of a source file. If the number sign stands only at the start of the
directives that it finds, then exactly these are taken out, those without a word included, and those
with a word are written in their order. -/
theorem existsUnique_isSearch_and_extract_eq (source : Text) :
    (∃! ps, render ps = source ∧ IsSearch "#add ".toList ps) ∧
      ∀ ps, render ps = source → IsSearch "#add ".toList ps → (∀ p ∈ ps, p.SignAtStart) →
        extract source =
          (Lexicon.ofPairs (((ps.filterMap Piece.directive?).filter fun d => d.key ≠ []).map
            fun d => (d.key, d.value)), ps.flatMap Piece.outside) := by
  refine ⟨⟨_, isSearch_iff_eq_pieces.2 rfl, fun ps h => isSearch_iff_eq_pieces.1 h⟩, ?_⟩
  rintro ps rfl hsearch hsign
  have hpieces : pieces inlineKeywords (render ps) = ps :=
    (isSearch_iff_isCut.1 hsearch).pieces_render
  have hfind : findAll inlineKeywords (render ps) = ps.filterMap Piece.directive? :=
    (isSearch_iff_isCut.1 hsearch).findAll_render
  have hapart : Apart "#add ".toList (pieces inlineKeywords (render ps)) := by
    rw [hpieces]
    exact apart_of_signAtStart hsign
  have hleft := extract_snd_eq_outside hapart
  rw [outside, hpieces] at hleft
  refine Prod.ext ?_ hleft
  rw [extract, hfind]
  rfl

/-- A directive that is written twice, one without a word, and one of a word that was written
before. -/
theorem extract_eq_of_repeated_directive :
    let ps : List Piece := [.plain 'x', .directive ⟨"#add ".toList, "k".toList, "v".toList⟩,
      .plain '\n', .directive ⟨"#add ".toList, [], "a::b".toList⟩, .plain ':',
      .directive ⟨"#add ".toList, "k".toList, "v".toList⟩,
      .directive ⟨"#add ".toList, "k".toList, ":w".toList⟩]
    render ps = "x#add k::v;\n#add ::a::b;:#add k::v;#add k:::w;".toList ∧
      (∀ p ∈ ps, p.SignAtStart) ∧
      extract (render ps) = (Lexicon.ofPairs [("k".toList, "v".toList), ("k".toList, "v".toList),
        ("k".toList, ":w".toList)], "x\n:".toList) := by
  intro ps
  have hsearch : render ps = render ps ∧ IsSearch "#add ".toList ps :=
    isSearch_iff_eq_pieces.2 (by decide +kernel)
  have hsign : ∀ p ∈ ps, p.SignAtStart := by decide
  exact ⟨by decide, hsign,
    (existsUnique_isSearch_and_extract_eq (render ps)).2 ps rfl hsearch.2 hsign⟩

end WordDirective

end Wordbridge
