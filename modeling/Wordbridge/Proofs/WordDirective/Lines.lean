import Wordbridge.Proofs.Compilation
import Wordbridge.Proofs.Lexicon.Sorting

/-!
# Directives and lines

A directive stands on one line. So the directives of a text are those of its
lines, one line after the other:

* `findAll_append_newline`, `hasHistory_append_newline`: what is found, and
  written, before and behind the end of a line;
* `MapLine.findAll_render`: a map file that is written line by line has the
  directives that were written, whatever stands on its other lines.
-/

namespace Wordbridge

namespace WordDirective

/-! ## The directives of the lines -/

/-- The directive that a text starts with does not change with the lines behind it. -/
theorem startingWith?_append_newline {keyword : Text} (h : '\n' ∉ keyword) (text rest : Text) :
    startingWith? (text ++ '\n' :: rest) keyword =
      (startingWith? text keyword).map (Prod.map id (· ++ '\n' :: rest)) := by
  have hseparator : '\n' ∉ separator := by decide
  have hterminator : '\n' ∉ terminator := by decide
  simp only [startingWith?, Text.after?_append_newline h]
  cases Text.after? keyword text with
  | none => rfl
  | some afterKeyword =>
    simp only [Option.map_some, Option.bind_eq_bind, Option.bind_some,
      Text.cutOnLine?_append_newline hseparator]
    cases Text.cutOnLine? separator afterKeyword with
    | none => rfl
    | some cut =>
      simp only [Option.map_some, Option.bind_some, Prod.map,
        Text.cutOnLine?_append_newline hterminator]
      cases Text.cutOnLine? terminator cut.2 with
      | none => rfl
      | some cut' => rfl

variable {keywords : List Text}

theorem start?_append_newline (h : ∀ keyword ∈ keywords, '\n' ∉ keyword) (text rest : Text) :
    start? keywords (text ++ '\n' :: rest) =
      (start? keywords text).map (Prod.map id (· ++ '\n' :: rest)) := by
  unfold start?
  induction keywords with
  | nil => rfl
  | cons keyword keywords ih =>
    have hkeyword := startingWith?_append_newline (h keyword (List.mem_cons_self ..)) text rest
    have ih := ih fun keyword hk => h keyword (List.mem_cons_of_mem _ hk)
    rw [List.findSome?_cons, List.findSome?_cons, hkeyword, ih]
    cases startingWith? text keyword with
    | none => rfl
    | some found => rfl

theorem start?_nil (keywords : List Text) : start? keywords [] = none := by
  cases h : start? keywords [] with
  | none => rfl
  | some found => exact absurd (length_lt_of_start? h) (Nat.not_lt_zero _)

/-- The directives of a text are those before the end of a line, and then those behind it. -/
theorem findAll_append_newline (h : ∀ keyword ∈ keywords, '\n' ∉ keyword) (text rest : Text) :
    findAll keywords (text ++ '\n' :: rest) = findAll keywords text ++ findAll keywords rest := by
  have hstart := fun text => start?_append_newline h text rest
  fun_induction findAll keywords text with
  | case1 =>
    have hnone := hstart []
    rw [start?_nil, Option.map_none] at hnone
    exact findAll_cons_of_start?_eq_none hnone
  | case2 c text d behind hs ih =>
    have hsome := hstart (c :: text)
    rw [hs, Option.map_some] at hsome
    rw [findAll_of_start? hsome, List.cons_append]
    exact congrArg (d :: ·) ih
  | case3 c text hs ih =>
    have hnone := hstart (c :: text)
    rw [hs, Option.map_none, List.cons_append] at hnone
    rw [List.cons_append, findAll_cons_of_start?_eq_none hnone, ih]

theorem writes_append (directives directives' : List WordDirective) :
    writes (directives ++ directives') = writes directives ++ writes directives' := by
  rw [writes, List.filter_append, List.map_append]
  rfl

/-- The writes of a text are those before the end of a line, and then those behind it. -/
theorem hasHistory_append_newline (h : ∀ keyword ∈ keywords, '\n' ∉ keyword) (a b : Text) :
    (Lexicon.ofPairs (writes (findAll keywords (a ++ '\n' :: b)))).HasHistory
      (writes (findAll keywords a) ++ writes (findAll keywords b)) := by
  rw [findAll_append_newline h, writes_append]
  exact .ofPairs _

/-! ## Map files, line by line -/

/-- The word ends at the first separator behind it, and its counterpart at the first terminator. -/
structure IsReadable (d : WordDirective) : Prop where
  onLine : d.OnLine
  key_separator : ¬ separator <:+: d.key
  key_last : d.key.getLast? ≠ some ':'
  value_terminator : ';' ∉ d.value

/-- A directive that can be read is found where it stands. -/
theorem IsReadable.startingWith?_append {d : WordDirective} (h : d.IsReadable) (rest : Text) :
    startingWith? (d.source ++ rest) d.keyword = some (d, rest) := by
  refine startingWith?_eq_some_iff.2 ⟨rfl, h.onLine, rfl, ?_, ?_⟩
  · refine Text.firstAt_append_of_not_isInfix (by decide) (fun hi => ?_) _
    rcases List.infix_concat_iff.1 hi with ⟨front, hfront⟩ | hi
    · have hkey : d.key = front ++ [':'] := by
        have := congrArg List.dropLast hfront
        simpa [separator] using this.symm
      exact h.key_last (by rw [hkey]; simp)
    · exact h.key_separator hi
  · refine Text.firstAt_append_of_not_isInfix (by decide) (fun hi => ?_) _
    have hmem := hi.subset (by decide : ';' ∈ terminator)
    exact h.value_terminator (by simpa [terminator] using hmem)

/-- The keywords of map files differ, so that the one that is written is the one that is found. -/
theorem IsReadable.start?_append {d : WordDirective} (h : d.IsReadable)
    (hkeyword : d.keyword ∈ mapKeywords) (rest : Text) :
    start? mapKeywords (d.source ++ rest) = some (d, rest) := by
  have hfound := h.startingWith?_append rest
  simp only [mapKeywords, List.mem_cons, List.not_mem_nil, or_false] at hkeyword
  rw [start?, mapKeywords, List.findSome?_cons]
  rcases hkeyword with hadd | hset
  · rw [← hadd, hfound]
  · have hnone : startingWith? (d.source ++ rest) "ADD ".toList = none := by
      have hafter : Text.after? "ADD ".toList (d.source ++ rest) = none := by
        rw [Text.after?_eq_none_iff, source, hset]
        simp
      rw [startingWith?, hafter]
      rfl
    rw [hnone, List.findSome?_singleton, ← hset, hfound]

end WordDirective

/-- A line of a map file: a directive, or anything else. -/
inductive MapLine where
  | directive (d : WordDirective)
  | other (text : Text)
  deriving DecidableEq, Repr

namespace MapLine

/-- The line as it is written. -/
def text : MapLine → Text
  | .directive d => d.source
  | .other text => text

def directive? : MapLine → Option WordDirective
  | .directive d => some d
  | .other _ => none

/-- The word that the line writes, with its counterpart. -/
def write? (line : MapLine) : Option (Text × Text) :=
  line.directive?.map fun d => (d.key, d.value)

/-- A directive of a map file that writes a word, or a line without a keyword. -/
def IsReadable : MapLine → Prop
  | .directive d => d.keyword ∈ WordDirective.mapKeywords ∧ d.key ≠ [] ∧ d.IsReadable
  | .other text => ∀ keyword ∈ WordDirective.mapKeywords, ¬ keyword <:+: text

/-- The lines as they are written, one below the other. -/
def render (lines : List MapLine) : Text :=
  ['\n'].intercalate (lines.map text)

theorem render_cons_cons (line line' : MapLine) (lines : List MapLine) :
    render (line :: line' :: lines) = line.text ++ '\n' :: render (line' :: lines) := by
  rw [render, List.map_cons, List.map_cons, List.intercalate_cons_cons, List.append_assoc]
  rfl

theorem findAll_text {line : MapLine} (h : line.IsReadable) :
    WordDirective.findAll WordDirective.mapKeywords line.text = line.directive?.toList := by
  cases line with
  | directive d =>
    have hstart := h.2.2.start?_append h.1 []
    rw [List.append_nil] at hstart
    rw [text, WordDirective.findAll_of_start? hstart, WordDirective.findAll]
    rfl
  | other text => exact WordDirective.findAll_eq_nil h

/-- The directives that are found in a map file are those that were written. -/
theorem findAll_render {lines : List MapLine} (h : ∀ line ∈ lines, line.IsReadable) :
    WordDirective.findAll WordDirective.mapKeywords (render lines) =
      lines.filterMap directive? := by
  have hnil : WordDirective.findAll WordDirective.mapKeywords [] = [] :=
    WordDirective.findAll_eq_nil (by decide)
  induction lines with
  | nil => exact hnil
  | cons line lines ih =>
    have hline := findAll_text (h line (List.mem_cons_self ..))
    have ih := ih fun line hl => h line (List.mem_cons_of_mem _ hl)
    have hcons : (line :: lines).filterMap directive? =
        line.directive?.toList ++ lines.filterMap directive? := by
      rw [List.filterMap_cons]
      cases line.directive? with
      | none => rfl
      | some d => rfl
    rw [hcons, ← hline, ← ih]
    cases lines with
    | nil =>
      rw [render, List.map_singleton, List.intercalate_singleton, render, List.map_nil,
        List.intercalate_nil, hnil, List.append_nil]
    | cons line' lines =>
      rw [render_cons_cons, WordDirective.findAll_append_newline (by decide)]

/-- All directives of the lines have a word. -/
theorem writes_filterMap {lines : List MapLine} (h : ∀ line ∈ lines, line.IsReadable) :
    WordDirective.writes (lines.filterMap directive?) = lines.filterMap write? := by
  have hkeep : (lines.filterMap directive?).filter (fun d => d.key ≠ []) =
      lines.filterMap directive? := by
    refine List.filter_eq_self.2 fun d hd => ?_
    obtain ⟨line, hline, hd⟩ := List.mem_filterMap.1 hd
    cases line with
    | directive d' =>
      rw [← Option.some.inj hd]
      exact decide_eq_true (h _ hline).2.1
    | other text => cases hd
  rw [WordDirective.writes, hkeep, List.map_filterMap]
  rfl

end MapLine

/-- A map file that was written line by line is read as the words of its directives, written in this
order: a word stands where it was first written, with the counterpart that it was given last. -/
theorem Lexicon.ofMapFile_render {lines : List MapLine} (h : ∀ line ∈ lines, line.IsReadable) :
    Lexicon.ofMapFile (MapLine.render lines) = Lexicon.ofPairs (lines.filterMap MapLine.write?) ∧
      (Lexicon.ofMapFile (MapLine.render lines)).pairs.map Prod.fst =
        ((lines.filterMap MapLine.write?).map Prod.fst).eraseDups ∧
      ∀ key, (Lexicon.ofMapFile (MapLine.render lines)).get? key =
        History.value? (lines.filterMap MapLine.write?) key := by
  have heq : Lexicon.ofMapFile (MapLine.render lines) =
      Lexicon.ofPairs (lines.filterMap MapLine.write?) := by
    rw [Lexicon.ofMapFile, MapLine.findAll_render h, MapLine.writes_filterMap h]
  rw [heq]
  exact ⟨rfl, (map_fst_pairs _).trans (map_key_ofPairs _), get?_eq_value? (.ofPairs _)⟩

/-- A word with a keyword in it that is written twice, first with a counterpart that starts as the
separator does, an empty counterpart, and a line with a keyword that is not in one piece. -/
theorem Lexicon.ofMapFile_render_of_word_written_again :
    let lines : List MapLine :=
      [.directive ⟨"ADD ".toList, "x;ADD :y".toList, ":::z".toList⟩, .other "AD D x::y;".toList,
        .directive ⟨"SET ".toList, "b".toList, []⟩,
        .directive ⟨"SET ".toList, "x;ADD :y".toList, "w".toList⟩]
    MapLine.render lines = "ADD x;ADD :y:::::z;\nAD D x::y;\nSET b::;\nSET x;ADD :y::w;".toList ∧
      Lexicon.ofMapFile (MapLine.render lines) =
        Lexicon.ofPairs [("x;ADD :y".toList, ":::z".toList), ("b".toList, []),
          ("x;ADD :y".toList, "w".toList)] ∧
      (Lexicon.ofMapFile (MapLine.render lines)).pairs.map Prod.fst =
        ["x;ADD :y".toList, "b".toList] ∧
      (Lexicon.ofMapFile (MapLine.render lines)).get? "x;ADD :y".toList = some "w".toList := by
  intro lines
  have h : ∀ line ∈ lines, line.IsReadable := by
    intro line hline
    simp only [lines, List.mem_cons, List.not_mem_nil, or_false] at hline
    rcases hline with rfl | rfl | rfl | rfl
    · exact ⟨by decide, by decide, by decide, by decide, by decide, by decide⟩
    · exact (by decide : ∀ keyword ∈ WordDirective.mapKeywords, ¬ keyword <:+: "AD D x::y;".toList)
    · exact ⟨by decide, by decide, by decide, by decide, by decide, by decide⟩
    · exact ⟨by decide, by decide, by decide, by decide, by decide, by decide⟩
  obtain ⟨heq, hwords, hget⟩ := ofMapFile_render h
  exact ⟨by decide, heq, hwords.trans (by decide), (hget _).trans (by decide)⟩

end Wordbridge
