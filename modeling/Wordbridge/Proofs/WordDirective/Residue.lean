import Wordbridge.Proofs.WordDirective

/-!
# What erasing leaves of directives

Directives are erased one after the other, wherever their texts occur in what
is left. Where the keyword occurs in no directive but at its start
(`IsSimple`), an erased text is either a whole directive or lies between the
directives. So each erasure leaves some of the pieces and cuts none
(`exists_render_eq_eraseAll`), and in the end no directive is left, nor any
part of one (`extract_snd_sublist_outside`). What was outside the directives
may be erased as well, where erasing has made a directive of it.
-/

namespace Wordbridge

namespace WordDirective

/-- The directive is found wherever its text stands, and the keyword occurs in it only at its
start. -/
structure IsSimple (keyword : Text) (d : WordDirective) : Prop where
  found : ∀ rest, start? [keyword] (d.source ++ rest) = some (d, rest)
  inside : ¬ keyword <:+: d.source.tail

variable {keyword : Text} {d : WordDirective} {ps : List Piece}

/-- A text that ends with the terminator and does not have the keyword in it does not run into a
directive. -/
theorem exists_eq_map_plain_append_of_isPrefix {mark : Text} (hterminator : ';' ∉ keyword)
    (hps : ∀ d, .directive d ∈ ps → IsSimple keyword d) (hmark : ¬ keyword <:+: mark)
    (hlast : ∀ c, mark.getLast? = some c → c = ';') (h : mark <+: render ps) :
    ∃ qs, ps = mark.map .plain ++ qs := by
  induction mark generalizing ps with
  | nil => exact ⟨ps, rfl⟩
  | cons a mark ih =>
    match ps with
    | [] => exact absurd (List.prefix_nil.1 h) (List.cons_ne_nil _ _)
    | .directive d :: ps =>
      exfalso
      have hkeyword : keyword <+: render (.directive d :: ps) := by
        rw [render_directive_cons]
        exact (keyword_isPrefix_source ((hps d (List.mem_cons_self ..)).found [])).trans
          (List.prefix_append _ _)
      rcases List.prefix_or_prefix_of_prefix hkeyword h with hp | hp
      · exact hmark hp.isInfix
      · have hmem := List.getLast_mem (List.cons_ne_nil a mark)
        rw [hlast _ (List.getLast?_eq_some_getLast _)] at hmem
        exact hterminator (hp.subset hmem)
    | .plain c :: ps =>
      rw [render_plain_cons, List.cons_prefix_cons] at h
      obtain ⟨rfl, h⟩ := h
      have hlast' : ∀ c, mark.getLast? = some c → c = ';' := by
        intro c hc
        exact hlast c (by rw [List.getLast?_cons, hc]; rfl)
      obtain ⟨qs, rfl⟩ := ih (fun d hd => hps d (List.mem_cons_of_mem _ hd))
        (fun hi => hmark (List.infix_cons hi)) hlast' h
      exact ⟨qs, rfl⟩

/-- A directive whose text starts at a character outside the directives is outside them. -/
theorem exists_eq_map_plain_append_of_source {c : Char} (hterminator : ';' ∉ keyword)
    (hd : IsSimple keyword d) (hps : ∀ d, .directive d ∈ ps → IsSimple keyword d)
    (h : d.source <+: c :: render ps) : ∃ qs, .plain c :: ps = d.source.map .plain ++ qs := by
  have hne : d.keyword ++ d.key ++ separator ++ d.value ≠ [] := by simp [separator]
  obtain ⟨c', front, hfront⟩ := List.exists_cons_of_ne_nil hne
  have hsource : d.source = c' :: (front ++ [';']) := by rw [source, hfront]; rfl
  have hinside := hd.inside
  rw [hsource, List.cons_prefix_cons] at h
  rw [hsource, List.tail_cons] at hinside
  obtain ⟨rfl, h⟩ := h
  obtain ⟨qs, rfl⟩ := exists_eq_map_plain_append_of_isPrefix hterminator hps hinside
    (by simp [eq_comm]) h
  exact ⟨qs, by rw [hsource]; rfl⟩

/-- Erasing the text of a directive leaves some of the pieces, and no directive with this text. -/
theorem exists_render_eq_eraseAll (hterminator : ';' ∉ keyword) (hd : IsSimple keyword d)
    (hps : ∀ d, .directive d ∈ ps → IsSimple keyword d) :
    ∃ qs, qs.Sublist ps ∧ Text.eraseAll d.source (render ps) = render qs ∧
      ∀ d', .directive d' ∈ qs → d'.source ≠ d.source := by
  have hne : d.source ≠ [] := by simp [source, separator]
  -- The text of the directive may take many characters at once, so that the induction is on the
  -- number of pieces.
  induction hn : ps.length using Nat.strongRecOn generalizing ps with
  | ind n ih =>
    cases ps with
    | nil =>
      refine ⟨[], List.Sublist.refl _, ?_, fun d' hd' => absurd hd' List.not_mem_nil⟩
      rw [render_nil, Text.eraseAll]
    | cons p ps =>
      have hps' : ∀ d, .directive d ∈ ps → IsSimple keyword d :=
        fun d hd => hps d (List.mem_cons_of_mem _ hd)
      obtain ⟨qs, hsub, herase, hqs⟩ := ih ps.length (by rw [← hn]; simp) hps' rfl
      cases p with
      | directive d' =>
        have hd' := hps d' (List.mem_cons_self ..)
        by_cases heq : d'.source = d.source
        · refine ⟨qs, hsub.cons _, ?_, hqs⟩
          rw [render_directive_cons, heq, Text.eraseAll_append_self hne, herase]
        · refine ⟨.directive d' :: qs, hsub.cons_cons _, ?_, fun d'' hd'' => ?_⟩
          · rw [render_directive_cons, render_directive_cons, ← herase]
            exact eraseAll_source_append hterminator hd'.inside hd.found (hd'.found _) heq
          · rcases List.mem_cons.1 hd'' with hd'' | hd''
            · cases hd''
              exact heq
            · exact hqs d'' hd''
      | plain c =>
        by_cases hp : d.source <+: c :: render ps
        · obtain ⟨behind, hbehind⟩ := exists_eq_map_plain_append_of_source hterminator hd hps' hp
          have hlt : behind.length < n := by
            have := List.length_pos_iff.2 hne
            rw [← hn, hbehind, List.length_append, List.length_map]
            omega
          rw [hbehind] at hps ⊢
          obtain ⟨rs, hsub', herase', hrs⟩ := ih behind.length hlt
            (fun d hd => hps d (List.mem_append_right _ hd)) rfl
          refine ⟨rs, hsub'.trans (List.sublist_append_right _ _), ?_, hrs⟩
          rw [render_map_plain_append, Text.eraseAll_append_self hne, herase']
        · refine ⟨.plain c :: qs, hsub.cons_cons _, ?_, fun d' hd' => ?_⟩
          · rw [render_plain_cons, render_plain_cons, ← herase]
            exact Text.eraseAll_cons_of_not_isPrefix hp
          · exact hqs d' ((List.mem_cons.1 hd').resolve_left (by simp))

/-- Erasing the texts of directives one after the other leaves some of the pieces, and no directive
with one of these texts. -/
theorem exists_render_eq_foldl_eraseAll (hterminator : ';' ∉ keyword) (texts : List Text)
    (htexts : ∀ text ∈ texts, ∃ d, IsSimple keyword d ∧ d.source = text)
    (hps : ∀ d, .directive d ∈ ps → IsSimple keyword d) :
    ∃ qs, qs.Sublist ps ∧
      texts.foldl (fun text mark => Text.eraseAll mark text) (render ps) = render qs ∧
      ∀ d, .directive d ∈ qs → d.source ∉ texts := by
  induction texts generalizing ps with
  | nil => exact ⟨ps, List.Sublist.refl _, rfl, fun _ _ => List.not_mem_nil⟩
  | cons text texts ih =>
    obtain ⟨d, hd, rfl⟩ := htexts text (List.mem_cons_self ..)
    obtain ⟨qs, hsub, herase, hqs⟩ := exists_render_eq_eraseAll hterminator hd hps
    obtain ⟨rs, hsub', herase', hrs⟩ := ih (fun text ht => htexts text (List.mem_cons_of_mem _ ht))
      fun d' hd' => hps d' (hsub.subset hd')
    refine ⟨rs, hsub'.trans hsub, by rw [List.foldl_cons, herase, herase'], fun d' hd' => ?_⟩
    rw [List.mem_cons, not_or]
    exact ⟨hqs d' (hsub'.subset hd'), hrs d' hd'⟩

/-- Pieces among which there is no directive are outside the directives. -/
theorem render_sublist_outside {qs : List Piece} (h : qs.Sublist ps)
    (hqs : ∀ d, .directive d ∉ qs) : (render qs).Sublist (ps.flatMap Piece.outside) := by
  induction h with
  | slnil => exact List.Sublist.refl _
  | cons p _ ih =>
    rw [List.flatMap_cons]
    exact (ih hqs).trans (List.sublist_append_right _ _)
  | cons_cons p _ ih =>
    have ih := ih fun d hd => hqs d (List.mem_cons_of_mem _ hd)
    cases p with
    | directive d => exact absurd (List.mem_cons_self ..) (hqs d)
    | plain c => exact ih.cons_cons c

/-- If the keyword occurs in no directive of a source file but at its start, nothing of the
directives is left: what is left is part of the text outside them. -/
theorem extract_snd_sublist_outside {source : Text}
    (h : ∀ d ∈ findAll inlineKeywords source, ¬ "#add ".toList <:+: d.source.tail) :
    (extract source).2.Sublist (outside inlineKeywords source) := by
  have hcut : IsCut ["#add ".toList] (pieces inlineKeywords source) := isCut_pieces _ source
  have hsimple : ∀ d, .directive d ∈ pieces inlineKeywords source → IsSimple "#add ".toList d :=
    fun d hd => ⟨hcut.of_directive_mem hd, h d (mem_findAll_iff.2 hd)⟩
  obtain ⟨qs, hsub, herase, hqs⟩ := exists_render_eq_foldl_eraseAll (by decide)
    ((findAll inlineKeywords source).map WordDirective.source).eraseDups (fun text ht => by
      obtain ⟨d, hd, rfl⟩ := List.mem_map.1 (List.mem_eraseDups.1 ht)
      exact ⟨d, hsimple d (mem_findAll_iff.1 hd), rfl⟩) hsimple
  rw [render_pieces] at herase
  have hnone : ∀ d, .directive d ∉ qs := fun d hd => hqs d hd (by
    rw [List.mem_eraseDups]
    exact List.mem_map_of_mem (mem_findAll_iff.2 (hsub.subset hd)))
  have hleft := render_sublist_outside hsub hnone
  rw [← herase] at hleft
  exact hleft

/-- A directive taken out makes another directive of what was around it. -/
theorem extract_snd_sublist_outside_of_made_directive :
    (∀ d ∈ findAll inlineKeywords "#ad#add a::b;d x::y;\n#add x::y;".toList,
        ¬ "#add ".toList <:+: d.source.tail) ∧
      (extract "#ad#add a::b;d x::y;\n#add x::y;".toList).2.Sublist
        (outside inlineKeywords "#ad#add a::b;d x::y;\n#add x::y;".toList) := by
  have h : ∀ d ∈ findAll inlineKeywords "#ad#add a::b;d x::y;\n#add x::y;".toList,
      ¬ "#add ".toList <:+: d.source.tail := by decide +kernel
  exact ⟨h, extract_snd_sublist_outside h⟩

example :
    (extract "#ad#add a::b;d x::y;\n#add x::y;".toList).2 = "\n".toList ∧
      outside inlineKeywords "#ad#add a::b;d x::y;\n#add x::y;".toList =
        "#add x::y;\n".toList := by
  decide +kernel

/-- All of this source file is in directives, and yet something is left of the second one: the first
is also taken out of it. -/
theorem not_extract_snd_sublist_outside :
    ¬ (extract "#add x::y;#add #add x::y;".toList).2.Sublist
      (outside inlineKeywords "#add x::y;#add #add x::y;".toList) := by
  decide +kernel

end WordDirective

end Wordbridge
