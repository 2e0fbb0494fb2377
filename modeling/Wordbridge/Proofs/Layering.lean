import Wordbridge.Layering
import Wordbridge.Proofs.Lexicon.Index

/-!
# Which layer holds

A layer is a lexicon with the writes that it came about by. In a lexicon that
came about by the writes of layers, one above the other (`stackWrites`), the
highest layer that has a word says what its counterpart is. Of the words that
share a counterpart, one stands above the others (`Above`), and that one is put
in its place in reverse:

* `value?_stackWrites`, `above_of_age_lt`: what the writes of all layers say,
  in terms of the layers;
* `isStack_of_hasHistory`: a lexicon with these writes, of any number of layers;
* `layer_eq_ok`: the lexicon of a script has the built-in names, the map file and
  the script's directives as its layers.
-/

namespace Wordbridge

/-- A lexicon, with the writes that it came about by. -/
structure Layer where
  lexicon : Lexicon
  writes : History
  hasHistory : lexicon.HasHistory writes

namespace Layer

/-- The layer without words. -/
def empty : Layer :=
  ⟨.empty, [], .empty⟩

/-- The words that a map file writes. -/
def ofMapFile (text : Text) : Layer :=
  ⟨.ofMapFile text, WordDirective.writes (WordDirective.findAll WordDirective.mapKeywords text),
    .ofPairs _⟩

/-- The words that the directives of a script write. -/
def ofScript (source : Text) : Layer :=
  ⟨(WordDirective.extract source).1,
    WordDirective.writes (WordDirective.findAll WordDirective.inlineKeywords source), .ofPairs _⟩

/-- The writes of all layers, those of the highest last. The highest layer comes first in the
list. -/
def stackWrites : List Layer → History
  | [] => []
  | layer :: layers => stackWrites layers ++ layer.writes

/-- The highest layer that has one of the two words has `key` alone, or has both and `key` was
written there after `other`. -/
inductive Above : List Layer → Text → Text → Prop
  | later {layer : Layer} {layers : List Layer} {key other : Text}
    (hkey : layer.lexicon.contains key = true) (hother : layer.lexicon.contains other = true)
    (hage : layer.writes.age key < layer.writes.age other) : Above (layer :: layers) key other
  | higher {layer : Layer} {layers : List Layer} {key other : Text}
    (hkey : layer.lexicon.contains key = true) (hother : layer.lexicon.contains other = false) :
    Above (layer :: layers) key other
  | lower {layer : Layer} {layers : List Layer} {key other : Text}
    (hkey : layer.lexicon.contains key = false) (hother : layer.lexicon.contains other = false)
    (habove : Above layers key other) : Above (layer :: layers) key other

theorem contains_eq (layer : Layer) (key : Text) :
    layer.lexicon.contains key = (layer.writes.value? key).isSome := by
  rw [Lexicon.contains_eq_isSome_get? (Lexicon.wellFormed_of_hasHistory layer.hasHistory),
    Lexicon.get?_eq_value? layer.hasHistory]

theorem value?_stackWrites (layers : List Layer) (key : Text) :
    (stackWrites layers).value? key = layers.findSome? fun layer => layer.lexicon.get? key := by
  induction layers with
  | nil => rfl
  | cons layer layers ih =>
    rw [stackWrites, History.value?_append, ih, List.findSome?_cons,
      Lexicon.get?_eq_value? layer.hasHistory]
    cases layer.writes.value? key with
    | none => rfl
    | some value => rfl

/-- The word that was written last of all stands above the others. -/
theorem above_of_age_lt {layers : List Layer} {key other : Text}
    (hkey : ((stackWrites layers).value? key).isSome = true)
    (hother : ((stackWrites layers).value? other).isSome = true)
    (hage : (stackWrites layers).age key < (stackWrites layers).age other) :
    Above layers key other := by
  induction layers with
  | nil => exact absurd hkey (by simp [stackWrites, History.value?])
  | cons layer layers ih =>
    rw [stackWrites, History.value?_append, Option.isSome_or] at hkey hother
    rw [stackWrites, History.age_append, History.age_append] at hage
    rw [← contains_eq] at hkey hother
    simp only [← contains_eq] at hage
    cases hk : layer.lexicon.contains key with
    | true =>
      cases ho : layer.lexicon.contains other with
      | true =>
        rw [hk, ho, if_pos rfl, if_pos rfl] at hage
        exact .later hk ho hage
      | false => exact .higher hk ho
    | false =>
      rw [hk, Bool.false_or] at hkey
      cases ho : layer.lexicon.contains other with
      | true =>
        have hlt := History.age_lt_length_iff.2 ((layer.contains_eq other).symm.trans ho)
        rw [hk, ho, if_pos rfl, if_neg Bool.false_ne_true] at hage
        omega
      | false =>
        rw [ho, Bool.false_or] at hother
        rw [hk, ho, if_neg Bool.false_ne_true, if_neg Bool.false_ne_true] at hage
        exact .lower hk ho (ih hkey hother (by omega))

/-- A lexicon that is made of layers, the highest first. -/
structure IsStack (lexicon : Lexicon) (layers : List Layer) : Prop where
  /-- The highest layer that has a word gives it its counterpart. -/
  get?_eq : ∀ key, lexicon.get? key = layers.findSome? fun layer => layer.lexicon.get? key
  /-- The longest words come first. -/
  isSorted : lexicon.isSorted = true
  /-- In reverse, a counterpart has one pattern, with the word that stands above the others. -/
  reverse : ∀ word, word ≠ [] → (∃ key, lexicon.get? key = some word) →
    ∃ key, lexicon.get? key = some word ∧
      (∀ other, lexicon.get? other = some word → other ≠ key → Above layers key other) ∧
      (lexicon.patterns .reverse).filter (fun p => p.word = word) = [⟨word, key⟩]

/-- A lexicon is made of the layers whose writes it came about by. -/
theorem isStack_of_hasHistory {lexicon : Lexicon} {layers : List Layer}
    (h : lexicon.HasHistory (stackWrites layers)) (hs : lexicon.isSorted = true) :
    IsStack lexicon layers where
  get?_eq key := (Lexicon.get?_eq_value? h key).trans (value?_stackWrites layers key)
  isSorted := hs
  reverse := by
    rintro word hne ⟨holder, hholder⟩
    have hget := Lexicon.get?_eq_value? h
    rw [hget] at hholder
    obtain ⟨key, hreplaces⟩ := History.exists_replaces_reverse hholder
    have hp : ⟨word, key⟩ ∈ lexicon.patterns .reverse :=
      (Lexicon.mem_patterns_iff h).2 ⟨hne, hreplaces⟩
    refine ⟨key, (hget key).trans hreplaces.1, fun other ho hother => ?_,
      Lexicon.filter_patterns_eq_singleton (Lexicon.wellFormed_of_hasHistory h) hp⟩
    rw [hget] at ho
    have hkey := Option.isSome_of_eq_some hreplaces.1
    have hne : (stackWrites layers).age key ≠ (stackWrites layers).age other := fun he =>
      hother (History.eq_of_age_eq hkey he).symm
    exact above_of_age_lt hkey (Option.isSome_of_eq_some ho)
      (Nat.lt_of_le_of_ne (hreplaces.2 other ho) hne)

end Layer

/-! ## The layers of a script -/

/-- The text of the map file. It is empty if no file was asked for or there is none. -/
inductive IsMapText (charset : Charset) : Option MapFile → Text → Prop
  | notRequested : IsMapText charset none []
  | missing (path : String) : IsMapText charset (some ⟨path, .error .notFound⟩) []
  | decoded (path : String) {bytes : Bytes} {text : Text} (h : charset.decode bytes = .ok text) :
    IsMapText charset (some ⟨path, .ok bytes⟩) text

theorem externalLayer_of_decode {charset : Charset} {bytes : Bytes} {text : Text}
    (h : charset.decode bytes = .ok text) (path : String) :
    externalLayer (some ⟨path, .ok bytes⟩) charset =
      .ok (.ofMapFile text, .loaded path (Lexicon.ofMapFile text).size) := by
  have hfile : MapFile.lexicon? ⟨path, .ok bytes⟩ charset = .ok (some (.ofMapFile text)) := by
    simp only [MapFile.lexicon?, h]
  rw [externalLayer, hfile]
  rfl

theorem ofMapFile_nil : Lexicon.ofMapFile [] = .empty := by
  rw [Lexicon.ofMapFile, WordDirective.findAll]
  rfl

theorem exists_externalLayer_eq_ok {charset : Charset} {map : Option MapFile} {text : Text}
    (h : IsMapText charset map text) :
    ∃ external, externalLayer map charset = .ok (.ofMapFile text, external) := by
  cases h with
  | notRequested => exact ⟨.notRequested, by rw [ofMapFile_nil]; rfl⟩
  | missing path => exact ⟨.missing path, by rw [ofMapFile_nil]; rfl⟩
  | decoded path h => exact ⟨_, externalLayer_of_decode h path⟩

/-- The layers are merged from the lowest up, and then sorted. -/
theorem layer_eq_ok {builtin outer : Lexicon} {charset : Charset} {map : Option MapFile}
    {external : External} (h : externalLayer map charset = .ok (outer, external))
    (direction : Direction) (source : Text) :
    layer builtin map charset direction source =
      .ok ⟨((builtin.merge outer).merge (inlineLayer direction source).1).sort,
        (inlineLayer direction source).2, external, (inlineLayer direction source).1.size⟩ := by
  rw [layer, h]
  rfl

/-- The lexicon of a script is made of the script's directives above the map file above the built-in
names. A Lua script has no directives and stays as it is. -/
theorem layer_isStack (builtin : Layer) {charset : Charset} {map : Option MapFile} {text : Text}
    (h : IsMapText charset map text) (source : Text) :
    (∃ layered, layer builtin.lexicon map charset .forward source = .ok layered ∧
        layered.source = (WordDirective.extract source).2 ∧
        Layer.IsStack layered.lexicon [.ofScript source, .ofMapFile text, builtin]) ∧
      ∃ layered, layer builtin.lexicon map charset .reverse source = .ok layered ∧
        layered.source = source ∧
        Layer.IsStack layered.lexicon [.empty, .ofMapFile text, builtin] := by
  obtain ⟨external, hexternal⟩ := exists_externalLayer_eq_ok h
  have hstack : ∀ inner : Layer, Layer.IsStack
      ((builtin.lexicon.merge (.ofMapFile text)).merge inner.lexicon).sort
      [inner, .ofMapFile text, builtin] := fun inner =>
    Layer.isStack_of_hasHistory
      (.sort (.merge (.merge builtin.hasHistory (Layer.ofMapFile text).hasHistory)
        inner.hasHistory)) (Lexicon.isSorted_sort _)
  exact ⟨⟨_, layer_eq_ok hexternal .forward source, rfl, hstack (.ofScript source)⟩,
    ⟨_, layer_eq_ok hexternal .reverse source, rfl, hstack .empty⟩⟩

/-- A map file writes one of two words with the same counterpart, and a script the other. -/
theorem layer_isStack_of_shared_counterpart :
    let builtin : Layer := ⟨_, _, .ofPairs [("do".toList, "x".toList), ("by".toList, "y".toList)]⟩
    ∃ layered key, layer builtin.lexicon
        (some ⟨"words.map", .ok (Utf8.encode "SET do::x;".toList)⟩) .utf8 .forward
        "#add by::x;do".toList = .ok layered ∧
      layered.source = "do".toList ∧ layered.lexicon.get? "by".toList = some "x".toList ∧
      layered.lexicon.isSorted = true ∧
      (∀ other, layered.lexicon.get? other = some "x".toList → other ≠ key →
        Layer.Above [.ofScript "#add by::x;do".toList, .ofMapFile "SET do::x;".toList, builtin]
          key other) ∧
      (layered.lexicon.patterns .reverse).filter (fun p => p.word = "x".toList) =
        [⟨"x".toList, key⟩] := by
  intro builtin
  have htext : IsMapText .utf8 (some ⟨"words.map", .ok (Utf8.encode "SET do::x;".toList)⟩)
      "SET do::x;".toList := .decoded _ (by decide +kernel)
  obtain ⟨⟨layered, hok, hsource, hstack⟩, -⟩ :=
    layer_isStack builtin htext "#add by::x;do".toList
  have hby : layered.lexicon.get? "by".toList = some "x".toList :=
    (hstack.get?_eq _).trans (by decide +kernel)
  obtain ⟨key, -, habove, hfilter⟩ := hstack.reverse "x".toList (by decide) ⟨_, hby⟩
  exact ⟨layered, key, hok, hsource.trans (by decide +kernel), hby, hstack.isSorted, habove, hfilter⟩

end Wordbridge
