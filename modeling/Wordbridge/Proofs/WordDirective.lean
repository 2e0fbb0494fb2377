import Wordbridge.Proofs.Text
import Wordbridge.WordDirective

/-!
# Taking directives out of a text

The search for directives cuts a text into directives and the characters
between them (`pieces`). If the keyword occurs in no directive but at its start,
and no beginning of the keyword stands in front of a directive (`Apart`), then
the directives can be taken out one after the other, and nothing that is left
comes together to be a new one:

* `startingWith?_eq_none_iff`, `findAll_eq_nil_iff`: where a directive starts,
  and where there is none, without the search for them;
* `IsCut.filter`: the pieces that are left are the pieces of what is left;
* `extract_snd_eq_outside`, `findAll_outside_eq_nil`: what is left in the end
  are the characters between the directives, and these have no directive.
-/

namespace Wordbridge

namespace WordDirective

/-! ## Where a directive starts -/

/-- The word and its counterpart stand on one line. -/
def OnLine (d : WordDirective) : Prop :=
  '\n' ∉ d.key ∧ '\n' ∉ d.value

instance (d : WordDirective) : Decidable d.OnLine :=
  inferInstanceAs (Decidable (_ ∧ _))

/-- The text goes on as a directive does behind its keyword. -/
def HasBody (text : Text) : Prop :=
  ∃ key value, '\n' ∉ key ∧ '\n' ∉ value ∧ key ++ separator ++ value ++ terminator <+: text

theorem startingWith?_eq_some_iff {text keyword rest : Text} {d : WordDirective} :
    startingWith? text keyword = some (d, rest) ↔
      d.keyword = keyword ∧ d.OnLine ∧ text = d.source ++ rest ∧
        Text.FirstAt separator (d.key ++ separator ++ (d.value ++ terminator ++ rest)) d.key
          (d.value ++ terminator ++ rest) ∧
        Text.FirstAt terminator (d.value ++ terminator ++ rest) d.value rest := by
  simp only [startingWith?, Option.bind_eq_bind, Option.bind_eq_some_iff, Option.pure_def,
    Option.some.injEq, Prod.exists, Prod.mk.injEq, Text.after?_eq_some_iff,
    Text.cutOnLine?_eq_some_iff]
  constructor
  · rintro ⟨t, rfl, key, t', ⟨hkey, hkeyLine⟩, value, t'', ⟨hvalue, hvalueLine⟩, rfl, rfl⟩
    obtain rfl := hvalue.1
    obtain rfl := hkey.1
    exact ⟨rfl, ⟨hkeyLine, hvalueLine⟩, by simp [source], hkey, hvalue⟩
  · rintro ⟨rfl, ⟨hkeyLine, hvalueLine⟩, rfl, hkey, hvalue⟩
    exact ⟨_, by simp [source], d.key, _, ⟨hkey, hkeyLine⟩, d.value, _, ⟨hvalue, hvalueLine⟩, rfl,
      rfl⟩

theorem hasBody_of_source {d : WordDirective} (h : d.OnLine) (rest : Text) :
    d.source ++ rest = d.keyword ++ (d.key ++ separator ++ d.value ++ terminator ++ rest) ∧
      HasBody (d.key ++ separator ++ d.value ++ terminator ++ rest) :=
  ⟨by simp [source], d.key, d.value, h.1, h.2, rest, rfl⟩

/-- What follows a directive does not change it. -/
theorem startingWith?_append_congr {keyword rest : Text} {d : WordDirective}
    (h : startingWith? (d.source ++ rest) keyword = some (d, rest)) (rest' : Text) :
    startingWith? (d.source ++ rest') keyword = some (d, rest') := by
  obtain ⟨hkeyword, hline, -, hkey, hvalue⟩ := startingWith?_eq_some_iff.1 h
  exact startingWith?_eq_some_iff.2
    ⟨hkeyword, hline, rfl, hkey.append_congr _, hvalue.append_congr rest'⟩

/-- A directive starts wherever something of its form does. -/
theorem startingWith?_eq_none_iff {text keyword : Text} :
    startingWith? text keyword = none ↔ ∀ body, text = keyword ++ body → ¬ HasBody body := by
  constructor
  · rintro h body rfl ⟨key, value, hkey, hvalue, rest, rfl⟩
    obtain ⟨key', middle, hmiddle, hcut⟩ :=
      Text.exists_cutOnLine?_of_append separator (value ++ terminator ++ rest) hkey
    have hline : '\n' ∉ middle ++ value := by
      have hmem : '\n' ∉ key ++ separator := by simpa [separator] using hkey
      rw [hmiddle, List.mem_append, not_or] at hmem
      exact fun hm => (List.mem_append.1 hm).elim hmem.2 hvalue
    obtain ⟨value', middle', -, hcut'⟩ :=
      Text.exists_cutOnLine?_of_append terminator rest hline
    have hafter : Text.after? keyword
        (keyword ++ (key ++ separator ++ value ++ terminator ++ rest)) =
          some (key ++ separator ++ (value ++ terminator ++ rest)) :=
      Text.after?_eq_some_iff.2 (by simp)
    have hrest : middle ++ (value ++ terminator ++ rest) = middle ++ value ++ terminator ++ rest := by
      simp
    simp only [startingWith?, hafter, hcut, hrest, hcut', Option.bind_eq_bind, Option.bind_some,
      Option.pure_def, reduceCtorEq] at h
  · intro h
    cases hs : startingWith? text keyword with
    | none => rfl
    | some found =>
      obtain ⟨d, rest⟩ := found
      obtain ⟨rfl, hline, rfl, -⟩ := startingWith?_eq_some_iff.1 hs
      obtain ⟨hsource, hbody⟩ := hasBody_of_source hline rest
      exact absurd hbody (h _ hsource)

theorem start?_eq_none_iff {keywords : List Text} {text : Text} :
    start? keywords text = none ↔
      ∀ keyword ∈ keywords, ∀ body, text = keyword ++ body → ¬ HasBody body := by
  simp only [start?, List.findSome?_eq_none_iff, startingWith?_eq_none_iff]

theorem of_start?_eq_some {keywords : List Text} {text rest : Text} {d : WordDirective}
    (h : start? keywords text = some (d, rest)) :
    d.keyword ∈ keywords ∧ d.OnLine ∧ text = d.source ++ rest := by
  obtain ⟨keyword, hmem, hk⟩ := List.exists_of_findSome?_eq_some h
  obtain ⟨rfl, hline, htext, -⟩ := startingWith?_eq_some_iff.1 hk
  exact ⟨hmem, hline, htext⟩

/-- A text has no directive exactly if nothing of the form of one occurs in it. -/
theorem findAll_eq_nil_iff {keywords : List Text} {text : Text} :
    findAll keywords text = [] ↔
      ∀ d : WordDirective, d.keyword ∈ keywords → d.OnLine → ¬ d.source <:+: text := by
  constructor
  · intro h d hkeyword hline
    induction text with
    | nil =>
      intro hi
      exact absurd (List.infix_nil.1 hi) (by simp [source, separator])
    | cons c text ih =>
      rw [findAll] at h
      split at h
      · cases h
      · rename_i hnone
        rw [List.infix_cons_iff, not_or]
        refine ⟨fun ⟨rest, hrest⟩ => ?_, ih h⟩
        obtain ⟨hsource, hbody⟩ := hasBody_of_source hline rest
        exact start?_eq_none_iff.1 hnone _ hkeyword _ (hrest.symm.trans hsource) hbody
  · intro h
    induction text with
    | nil => rw [findAll]
    | cons c text ih =>
      rw [findAll]
      split
      · rename_i d rest hs
        obtain ⟨hkeyword, hline, htext⟩ := of_start?_eq_some hs
        exact absurd ⟨[], rest, htext.symm⟩ (h d hkeyword hline)
      · exact ih fun d hk hline hi => h d hk hline (List.infix_cons hi)

/-! ## The pieces of a text -/

/-- A piece of a text in the search for directives: a directive, or a character of none. -/
inductive Piece where
  | directive (d : WordDirective)
  | plain (c : Char)
  deriving DecidableEq, Repr

namespace Piece

/-- The piece itself. -/
def source : Piece → Text
  | .directive d => d.source
  | .plain c => [c]

/-- The piece as a directive. -/
def directive? : Piece → Option WordDirective
  | .directive d => some d
  | .plain _ => none

/-- What is left of the piece without directives. -/
def outside : Piece → Text
  | .directive _ => []
  | .plain c => [c]

/-- Whether the piece stays if the directives that `keep` does not hold of are taken out. -/
def isKept (keep : WordDirective → Bool) : Piece → Bool
  | .directive d => keep d
  | .plain _ => true

end Piece

/-- The text that the pieces make up. -/
def render (pieces : List Piece) : Text :=
  pieces.flatMap Piece.source

@[simp] theorem render_nil : render [] = [] := rfl

@[simp] theorem render_directive_cons (d : WordDirective) (pieces : List Piece) :
    render (.directive d :: pieces) = d.source ++ render pieces :=
  List.flatMap_cons

@[simp] theorem render_plain_cons (c : Char) (pieces : List Piece) :
    render (.plain c :: pieces) = c :: render pieces :=
  List.flatMap_cons

@[simp] theorem render_map_plain_append (text : Text) (pieces : List Piece) :
    render (text.map .plain ++ pieces) = text ++ render pieces := by
  induction text with
  | nil => rfl
  | cons c text ih => rw [List.map_cons, List.cons_append, render_plain_cons, ih, List.cons_append]

/-- The pieces of a text, from left to right. -/
def pieces (keywords : List Text) : Text → List Piece
  | [] => []
  | c :: text =>
    match _h : start? keywords (c :: text) with
    | some (directive, rest) => .directive directive :: pieces keywords rest
    | none => .plain c :: pieces keywords text
  termination_by text => text.length
  decreasing_by
    · exact length_lt_of_start? _h
    · simp

/-- The text outside its directives. -/
def outside (keywords : List Text) (text : Text) : Text :=
  (pieces keywords text).flatMap Piece.outside

/-- Each piece is what the search finds where the text comes to it. -/
inductive IsCut (keywords : List Text) : List Piece → Prop
  | nil : IsCut keywords []
  | directive {d : WordDirective} {pieces : List Piece}
    (h : start? keywords (d.source ++ render pieces) = some (d, render pieces))
    (rest : IsCut keywords pieces) : IsCut keywords (.directive d :: pieces)
  | plain {c : Char} {pieces : List Piece} (h : start? keywords (c :: render pieces) = none)
    (rest : IsCut keywords pieces) : IsCut keywords (.plain c :: pieces)

variable {keywords : List Text}

theorem render_pieces (keywords : List Text) (text : Text) : render (pieces keywords text) = text := by
  fun_induction pieces keywords text with
  | case1 => rfl
  | case2 c text d rest h ih => rw [render_directive_cons, ih, eq_append_of_start? h]
  | case3 c text h ih => rw [render_plain_cons, ih]

theorem isCut_pieces (keywords : List Text) (text : Text) : IsCut keywords (pieces keywords text) := by
  fun_induction pieces keywords text with
  | case1 => exact .nil
  | case2 c text d rest h ih =>
    refine .directive ?_ ih
    rw [render_pieces, ← eq_append_of_start? h, h]
  | case3 c text h ih => exact .plain (by rw [render_pieces, h]) ih

theorem findAll_of_start? {text rest : Text} {d : WordDirective}
    (h : start? keywords text = some (d, rest)) :
    findAll keywords text = d :: findAll keywords rest := by
  cases text with
  | nil => exact absurd (length_lt_of_start? h) (Nat.not_lt_zero _)
  | cons c text =>
    rw [findAll]
    split
    · rename_i hs
      rw [h] at hs
      cases hs
      rfl
    · rename_i hs
      rw [h] at hs
      cases hs

theorem findAll_cons_of_start?_eq_none {text : Text} {c : Char}
    (h : start? keywords (c :: text) = none) : findAll keywords (c :: text) = findAll keywords text := by
  rw [findAll]
  split
  · rename_i hs
    rw [h] at hs
    cases hs
  · rfl

/-- The directives that are found in a text are those among its pieces. -/
theorem IsCut.findAll_render {ps : List Piece} (h : IsCut keywords ps) :
    findAll keywords (render ps) = ps.filterMap Piece.directive? := by
  induction h with
  | nil => rw [render_nil, findAll, List.filterMap_nil]
  | directive h _ ih => rw [render_directive_cons, findAll_of_start? h, ih]; rfl
  | plain h _ ih => rw [render_plain_cons, findAll_cons_of_start?_eq_none h, ih]; rfl

/-! ## Taking directives out -/

/-- The characters before the next directive, if there is one. -/
def run? : List Piece → Option Text
  | [] => none
  | .directive _ :: _ => some []
  | .plain c :: pieces => (run? pieces).map (c :: ·)

/-- The keyword occurs in no directive but at its start, and no beginning of the keyword stands in
front of a directive. -/
def Apart (keyword : Text) : List Piece → Prop
  | [] => True
  | .directive d :: pieces => ¬ keyword <:+: d.source.tail ∧ Apart keyword pieces
  | .plain c :: pieces =>
    (∀ run ∈ run? (.plain c :: pieces), ¬ run <+: keyword) ∧ Apart keyword pieces

instance decidableApart (keyword : Text) : (pieces : List Piece) → Decidable (Apart keyword pieces)
  | [] => inferInstanceAs (Decidable True)
  | .directive d :: pieces =>
    have := decidableApart keyword pieces
    inferInstanceAs (Decidable (¬ keyword <:+: d.source.tail ∧ Apart keyword pieces))
  | .plain c :: pieces =>
    have := decidableApart keyword pieces
    inferInstanceAs (Decidable
      ((∀ run ∈ run? (.plain c :: pieces), ¬ run <+: keyword) ∧ Apart keyword pieces))

theorem render_filter_map_plain_append (keep : WordDirective → Bool) (text : Text)
    (ps : List Piece) :
    render ((text.map Piece.plain ++ ps).filter (Piece.isKept keep)) =
      text ++ render (ps.filter (Piece.isKept keep)) := by
  have hkept : (text.map Piece.plain).filter (Piece.isKept keep) = text.map .plain :=
    List.filter_eq_self.2 fun p hp => by
      obtain ⟨c, -, rfl⟩ := List.mem_map.1 hp
      rfl
  rw [List.filter_append, hkept, render_map_plain_append]

/-- A mark that no characters before a directive start is not made by taking directives out. -/
theorem exists_eq_map_plain_append {keep : WordDirective → Bool} {mark : Text} {ps : List Piece}
    (hrun : ∀ run ∈ run? ps, ¬ run <+: mark)
    (h : mark <+: render (ps.filter (Piece.isKept keep))) : ∃ qs, ps = mark.map .plain ++ qs := by
  induction mark generalizing ps with
  | nil => exact ⟨ps, rfl⟩
  | cons a mark ih =>
    match ps with
    | [] => exact absurd (List.prefix_nil.1 h) (List.cons_ne_nil _ _)
    | .directive d :: ps => exact absurd (List.nil_prefix) (hrun [] rfl)
    | .plain c :: ps =>
      rw [List.filter_cons_of_pos rfl, render_plain_cons, List.cons_prefix_cons] at h
      obtain ⟨rfl, h⟩ := h
      obtain ⟨qs, rfl⟩ := ih (fun run hr hp => hrun (a :: run) (by simp [run?, Option.mem_def.1 hr])
        (List.cons_prefix_cons.2 ⟨rfl, hp⟩)) h
      exact ⟨qs, rfl⟩

/-- The first line of the pieces has a directive, or is a line of characters. -/
theorem exists_line (ps : List Piece) :
    ∃ (line : Text) (rest : List Piece), '\n' ∉ line ∧ ps = line.map .plain ++ rest ∧
      ((∃ d rest', rest = .directive d :: rest') ∨ ∀ p, rest.head? = some p → p = .plain '\n') := by
  induction ps with
  | nil => exact ⟨[], [], List.not_mem_nil, rfl, .inr (by simp)⟩
  | cons p ps ih =>
    cases p with
    | directive d => exact ⟨[], .directive d :: ps, List.not_mem_nil, rfl, .inl ⟨d, ps, rfl⟩⟩
    | plain c =>
      by_cases hc : c = '\n'
      · exact ⟨[], .plain c :: ps, List.not_mem_nil, rfl, .inr (by simp [hc])⟩
      · obtain ⟨line, rest, hline, rfl, hrest⟩ := ih
        exact ⟨c :: line, rest, by simp [hline, Ne.symm hc], rfl, hrest⟩

/-- What taking directives out leaves to be the body of a directive was one before. -/
theorem hasBody_of_filter {keep : WordDirective → Bool} {ps : List Piece}
    (hline : ∀ d, .directive d ∈ ps → '\n' ∉ d.keyword ∧ d.OnLine)
    (h : HasBody (render (ps.filter (Piece.isKept keep)))) : HasBody (render ps) := by
  obtain ⟨line, rest, hnewline, rfl, hrest⟩ := exists_line ps
  rw [render_filter_map_plain_append] at h
  rw [render_map_plain_append]
  obtain ⟨d, rest', rfl⟩ | hhead := hrest
  · obtain ⟨hkeyword, hkey, hvalue⟩ := hline d (by simp)
    refine ⟨line ++ d.keyword ++ d.key, d.value, ?_, hvalue, render rest', ?_⟩
    · simp [hnewline, hkeyword, hkey]
    · simp [source]
  · obtain ⟨key, value, hkey, hvalue, hp⟩ := h
    have hbody : '\n' ∉ key ++ separator ++ value ++ terminator := by
      simp [separator, terminator, hkey, hvalue]
    refine ⟨key, value, hkey, hvalue, ?_⟩
    refine (Text.isPrefix_of_isPrefix_append hp fun c hc => ?_).trans (List.prefix_append _ _)
    cases rest with
    | nil => exact absurd hc (by simp)
    | cons p rest =>
      obtain rfl := hhead p rfl
      rw [List.filter_cons_of_pos rfl, render_plain_cons, List.head?_cons, Option.some.injEq] at hc
      exact hc ▸ hbody

theorem start?_singleton (keyword text : Text) :
    start? [keyword] text = startingWith? text keyword :=
  List.findSome?_singleton

theorem IsCut.of_directive_mem {ps : List Piece} {d : WordDirective} {keyword : Text}
    (h : IsCut [keyword] ps) (hd : .directive d ∈ ps) (rest : Text) :
    start? [keyword] (d.source ++ rest) = some (d, rest) := by
  induction h with
  | nil => cases hd
  | directive h _ ih =>
    rcases List.mem_cons.1 hd with heq | hd
    · cases heq
      rw [start?_singleton] at h ⊢
      exact startingWith?_append_congr h rest
    · exact ih hd
  | plain _ _ ih => exact ih ((List.mem_cons.1 hd).resolve_left (by simp))

theorem IsCut.onLine {ps : List Piece} {d : WordDirective} {keyword : Text}
    (h : IsCut [keyword] ps) (hd : .directive d ∈ ps) : d.keyword = keyword ∧ d.OnLine := by
  obtain ⟨hkeyword, hline, -⟩ := of_start?_eq_some (h.of_directive_mem hd [])
  exact ⟨List.mem_singleton.1 hkeyword, hline⟩

/-- Where no directive started, none starts when others are taken out. -/
theorem start?_filter_eq_none (keep : WordDirective → Bool) {keyword : Text} {ps : List Piece}
    (hnewline : '\n' ∉ keyword) (hcut : IsCut [keyword] ps)
    (hrun : ∀ run ∈ run? ps, ¬ run <+: keyword) (h : start? [keyword] (render ps) = none) :
    start? [keyword] (render (ps.filter (Piece.isKept keep))) = none := by
  rw [start?_singleton, startingWith?_eq_none_iff] at h ⊢
  intro body hbody hhas
  obtain ⟨qs, rfl⟩ := exists_eq_map_plain_append hrun ⟨body, hbody.symm⟩
  rw [render_filter_map_plain_append, List.append_cancel_left_eq] at hbody
  subst hbody
  refine h (render qs) (render_map_plain_append _ _) (hasBody_of_filter (fun d hd => ?_) hhas)
  obtain ⟨hkeyword, hline⟩ := hcut.onLine (List.mem_append_right _ hd)
  exact ⟨hkeyword ▸ hnewline, hline⟩

/-- The pieces that are left when directives are taken out are the pieces of what is left. -/
theorem IsCut.filter {keyword : Text} {ps : List Piece} (hcut : IsCut [keyword] ps)
    (hnewline : '\n' ∉ keyword) (hapart : Apart keyword ps) (keep : WordDirective → Bool) :
    IsCut [keyword] (ps.filter (Piece.isKept keep)) := by
  induction hcut with
  | nil => exact .nil
  | @directive d ps h rest ih =>
    have hd := (IsCut.directive h rest).of_directive_mem (List.mem_cons_self ..)
    rw [List.filter_cons]
    split
    · exact .directive (hd _) (ih hapart.2)
    · exact ih hapart.2
  | @plain c ps h rest ih =>
    have hnone := start?_filter_eq_none keep hnewline (.plain h rest) hapart.1
      (by rwa [render_plain_cons])
    rw [List.filter_cons_of_pos rfl] at hnone ⊢
    rw [render_plain_cons] at hnone
    exact .plain hnone (ih hapart.2)

/-- Inside a directive there is no keyword, and none that reaches beyond its end. -/
theorem not_keyword_isPrefix_append {keyword front back : Text} {d : WordDirective}
    (hterminator : ';' ∉ keyword) (hinside : ¬ keyword <:+: d.source.tail)
    (hsource : d.source.tail = front ++ back) (hne : back ≠ []) (rest : Text) :
    ¬ keyword <+: back ++ rest := by
  intro hp
  obtain rfl | ⟨back, last, rfl⟩ := List.eq_nil_or_concat back
  · exact hne rfl
  have hlast : last = ';' := by
    have hnil : d.keyword ++ d.key ++ separator ++ d.value ≠ [] := by simp [separator]
    rw [source, List.tail_append_of_ne_nil hnil, List.concat_eq_append, ← List.append_assoc] at hsource
    exact (List.singleton_inj.1 (List.append_inj' hsource rfl).2).symm
  rw [List.concat_eq_append, List.append_assoc] at hp
  have hback : keyword <+: back := Text.isPrefix_of_isPrefix_append hp fun c hc => by
    rw [List.singleton_append, List.head?_cons, Option.some.injEq, hlast] at hc
    exact hc ▸ hterminator
  refine hinside ?_
  rw [hsource, List.concat_eq_append]
  exact (hback.isInfix.trans (List.prefix_append _ _).isInfix).trans (List.suffix_append _ _).isInfix

theorem keyword_isPrefix_source {keyword rest : Text} {d : WordDirective}
    (h : start? [keyword] (d.source ++ rest) = some (d, rest)) : keyword <+: d.source := by
  rw [← List.mem_singleton.1 (of_start?_eq_some h).1]
  simp [source]

/-- Erasing the text of a directive leaves another directive as it is. -/
theorem eraseAll_source_append {keyword rest : Text} {d d' : WordDirective}
    (hterminator : ';' ∉ keyword) (hinside : ¬ keyword <:+: d'.source.tail)
    (hd : ∀ rest, start? [keyword] (d.source ++ rest) = some (d, rest))
    (hd' : start? [keyword] (d'.source ++ rest) = some (d', rest)) (hne : d'.source ≠ d.source) :
    Text.eraseAll d.source (d'.source ++ rest) = d'.source ++ Text.eraseAll d.source rest := by
  refine Text.eraseAll_append_of_forall fun front back hsource hback hp => ?_
  cases front with
  | nil =>
    obtain ⟨rest', hrest'⟩ := hp
    have hs := hd rest'
    rw [hrest', ← List.nil_append back, ← hsource, hd'] at hs
    cases hs
    exact hne rfl
  | cons a front =>
    exact not_keyword_isPrefix_append hterminator hinside (by rw [hsource]; rfl) hback _
      ((keyword_isPrefix_source (hd [])).trans hp)

/-- Erasing the text of a directive takes out the pieces with this text. -/
theorem IsCut.eraseAll_render {keyword : Text} {ps : List Piece} {d : WordDirective}
    (hterminator : ';' ∉ keyword) (hcut : IsCut [keyword] ps)
    (hinside : ∀ d', .directive d' ∈ ps → ¬ keyword <:+: d'.source.tail)
    (hd : ∀ rest, start? [keyword] (d.source ++ rest) = some (d, rest)) :
    Text.eraseAll d.source (render ps) =
      render (ps.filter (Piece.isKept fun d' => d'.source ≠ d.source)) := by
  induction hcut with
  | nil => rw [List.filter_nil, render_nil, Text.eraseAll]
  | @directive d' ps h rest ih =>
    have ih := ih fun d'' hd'' => hinside d'' (List.mem_cons_of_mem _ hd'')
    by_cases heq : d'.source = d.source
    · have hne : d.source ≠ [] := by simp [source, separator]
      rw [List.filter_cons_of_neg (by simpa [Piece.isKept] using heq), render_directive_cons, heq,
        Text.eraseAll_append_self hne, ih]
    · rw [List.filter_cons_of_pos (by simpa [Piece.isKept] using heq), render_directive_cons,
        render_directive_cons, ← ih]
      exact eraseAll_source_append hterminator (hinside d' (List.mem_cons_self ..)) hd h heq
  | @plain c ps h rest ih =>
    have ih := ih fun d'' hd'' => hinside d'' (List.mem_cons_of_mem _ hd'')
    rw [List.filter_cons_of_pos rfl, render_plain_cons, render_plain_cons, ← ih]
    refine Text.eraseAll_cons_of_not_isPrefix fun hp => ?_
    obtain ⟨rest, hrest⟩ := hp
    have hs := hd rest
    rw [hrest, h] at hs
    cases hs

theorem Apart.inside {keyword : Text} {ps : List Piece} (h : Apart keyword ps) {d : WordDirective}
    (hd : .directive d ∈ ps) : ¬ keyword <:+: d.source.tail := by
  induction ps with
  | nil => cases hd
  | cons p ps ih =>
    cases p with
    | directive d' =>
      rcases List.mem_cons.1 hd with heq | hd
      · cases heq
        exact h.1
      · exact ih h.2 hd
    | plain c => exact ih h.2 ((List.mem_cons.1 hd).resolve_left (by simp))

theorem filter_isKept_filter (keep keep' : WordDirective → Bool) (ps : List Piece) :
    (ps.filter (Piece.isKept keep)).filter (Piece.isKept keep') =
      ps.filter (Piece.isKept fun d => keep' d && keep d) := by
  rw [List.filter_filter]
  refine List.filter_congr fun p _ => ?_
  cases p with
  | directive d => rfl
  | plain c => rfl

/-- Erasing the texts of directives one after the other takes out the pieces with these texts. -/
theorem foldl_eraseAll_render {keyword : Text} {ps : List Piece} (hnewline : '\n' ∉ keyword)
    (hterminator : ';' ∉ keyword) (hcut : IsCut [keyword] ps) (hapart : Apart keyword ps)
    (texts : List Text) (htexts : ∀ text ∈ texts, ∃ d, .directive d ∈ ps ∧ d.source = text)
    (keep : WordDirective → Bool) :
    texts.foldl (fun text mark => Text.eraseAll mark text)
        (render (ps.filter (Piece.isKept keep))) =
      render (ps.filter (Piece.isKept fun d => d.source ∉ texts && keep d)) := by
  induction texts generalizing keep with
  | nil => simp
  | cons text texts ih =>
    obtain ⟨d, hd, rfl⟩ := htexts text (List.mem_cons_self ..)
    have hinside : ∀ d', .directive d' ∈ ps.filter (Piece.isKept keep) →
        ¬ keyword <:+: d'.source.tail := fun d' hd' => hapart.inside (List.mem_filter.1 hd').1
    rw [List.foldl_cons, (hcut.filter hnewline hapart keep).eraseAll_render hterminator hinside
      (hcut.of_directive_mem hd), filter_isKept_filter,
      ih fun text ht => htexts text (List.mem_cons_of_mem _ ht)]
    congr 2
    funext d'
    simp [Bool.and_assoc, Bool.and_comm]

/-- Without the directives, the characters between them are left. -/
theorem render_filter_eq_outside (ps : List Piece) :
    render (ps.filter (Piece.isKept fun _ => false)) = ps.flatMap Piece.outside := by
  induction ps with
  | nil => rfl
  | cons p ps ih =>
    cases p with
    | directive d =>
      rw [List.filter_cons_of_neg (by simp [Piece.isKept]), ih]
      rfl
    | plain c =>
      rw [List.filter_cons_of_pos rfl, render_plain_cons, ih]
      rfl

theorem mem_findAll_iff {text : Text} {d : WordDirective} :
    d ∈ findAll keywords text ↔ .directive d ∈ pieces keywords text := by
  have h := (isCut_pieces keywords text).findAll_render
  rw [render_pieces] at h
  rw [h, List.mem_filterMap]
  constructor
  · rintro ⟨p, hp, hd⟩
    cases p with
    | directive d' => rwa [← Option.some.inj hd]
    | plain c => cases hd
  · exact fun hd => ⟨_, hd, rfl⟩

/-- All directives of a source file are taken out of it. -/
theorem extract_snd_eq_outside {source : Text}
    (h : Apart "#add ".toList (pieces inlineKeywords source)) :
    (extract source).2 = outside inlineKeywords source := by
  have hcut : IsCut ["#add ".toList] (pieces inlineKeywords source) := isCut_pieces _ source
  have hfold := foldl_eraseAll_render (by decide) (by decide) hcut h
    ((findAll inlineKeywords source).map WordDirective.source).eraseDups (fun text ht => by
      obtain ⟨d, hd, rfl⟩ := List.mem_map.1 (List.mem_eraseDups.1 ht)
      exact ⟨d, mem_findAll_iff.1 hd, rfl⟩) fun _ => true
  have hall : (pieces inlineKeywords source).filter (Piece.isKept fun _ => true) =
      pieces inlineKeywords source :=
    List.filter_eq_self.2 fun p _ => by cases p <;> rfl
  rw [hall, render_pieces] at hfold
  refine hfold.trans ?_
  rw [outside, ← render_filter_eq_outside]
  refine congrArg render (List.filter_congr fun p hp => ?_)
  cases p with
  | directive d =>
    have hd : d.source ∈ (findAll inlineKeywords source).map WordDirective.source :=
      List.mem_map_of_mem (mem_findAll_iff.2 hp)
    simp [Piece.isKept, List.mem_eraseDups.2 hd]
  | plain c => rfl

/-- Nothing of what is left has come together to be a directive. -/
theorem findAll_outside_eq_nil {source : Text}
    (h : Apart "#add ".toList (pieces inlineKeywords source)) :
    findAll inlineKeywords (outside inlineKeywords source) = [] := by
  have hcut : IsCut ["#add ".toList] (pieces inlineKeywords source) := isCut_pieces _ source
  have hfind := (hcut.filter (by decide) h fun _ => false).findAll_render
  rw [render_filter_eq_outside] at hfind
  refine hfind.trans (List.filterMap_eq_nil_iff.2 fun p hp => ?_)
  cases p with
  | directive d => exact absurd (List.mem_filter.1 hp).2 (by simp [Piece.isKept])
  | plain c => rfl

/-- If the keyword occurs in no directive but at its start, and no beginning of it stands in front of
a directive, then what is left of a source file is the text outside its directives. Nothing of the
form of a directive occurs in it, so that extracting again finds nothing and changes nothing. -/
theorem extract_of_apart {source : Text}
    (h : Apart "#add ".toList (pieces inlineKeywords source)) :
    (extract source).2 = outside inlineKeywords source ∧
      (∀ d : WordDirective, d.keyword ∈ inlineKeywords → d.OnLine →
        ¬ d.source <:+: (extract source).2) ∧
      extract (extract source).2 = (.empty, (extract source).2) := by
  have houtside := extract_snd_eq_outside h
  have hnil := findAll_outside_eq_nil h
  rw [← houtside] at hnil
  refine ⟨houtside, findAll_eq_nil_iff.1 hnil, ?_⟩
  rw [extract, hnil]
  rfl

/-- A source file with a number sign that starts no directive, and one in a directive. -/
theorem extract_of_number_signs :
    Apart "#add ".toList (pieces inlineKeywords "#t #add #::len; n#add x::y;\n#add z".toList) ∧
      (extract "#t #add #::len; n#add x::y;\n#add z".toList).2 = "#t  n\n#add z".toList ∧
      extract "#t  n\n#add z".toList = (.empty, "#t  n\n#add z".toList) := by
  have hapart : Apart "#add ".toList
      (pieces inlineKeywords "#t #add #::len; n#add x::y;\n#add z".toList) := by decide +kernel
  have hleft : (extract "#t #add #::len; n#add x::y;\n#add z".toList).2 = "#t  n\n#add z".toList := by
    decide +kernel
  have h := (extract_of_apart hapart).2.2
  rw [hleft] at h
  exact ⟨hapart, hleft, h⟩

/-- A directive that occurs in another one, and before it, is taken out of that one. The keyword that
is left makes a new directive of the text behind it. -/
theorem source_isInfix_extract :
    ∃ d : WordDirective, d.keyword ∈ inlineKeywords ∧ d.OnLine ∧
      d.source <:+: (extract "#add x::y;#add #add x::y;c::d;".toList).2 :=
  ⟨⟨"#add ".toList, "c".toList, "d".toList⟩, by decide, by decide, by decide +kernel⟩

-- A beginning of the keyword in front of a directive comes together with what follows it.
example : (extract "#ad#add x::y;d c::d;".toList).2 = "#add c::d;".toList := by
  decide +kernel

end WordDirective

end Wordbridge
