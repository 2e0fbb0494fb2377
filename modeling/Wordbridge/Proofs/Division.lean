import Wordbridge.Proofs.Layering
import Wordbridge.Proofs.Meaning
import Wordbridge.Proofs.WordDirective.Lines

/-!
# Dividing a map file

A map file can be divided at the end of any line. Its two parts, the second
layered over the first, then say what the file said (`Lexicon.Overlays`), since
the writes of the file are those of its parts. So a script can as well be
compiled with the second part over the first
(`text_compileOver_append_newline`).
-/

namespace Wordbridge

/-- The lexicon says of each word what `upper` says, or else what `lower` says, and what it replaces
is what they replace with one layered over the other. -/
structure Lexicon.Overlays (lexicon lower upper : Lexicon) : Prop where
  get?_eq : ∀ key, lexicon.get? key = (upper.get? key).or (lower.get? key)
  substitute_eq : ∀ direction text,
    lexicon.substitute direction text = (lower.merge upper).substitute direction text

theorem Lexicon.overlays_of_hasHistory {lexicon lower upper : Lexicon} {history history' : History}
    (h : lexicon.HasHistory (history ++ history')) (hl : lower.HasHistory history)
    (hu : upper.HasHistory history') : lexicon.Overlays lower upper where
  get?_eq key := by
    rw [get?_eq_value? h, History.value?_append, get?_eq_value? hl, get?_eq_value? hu]
  substitute_eq := substitute_eq_of_hasHistory h (hl.merge hu)

/-! ## Compiling with a divided map file -/

theorem exists_hasHistory_inlineLayer (direction : Direction) (source : Text) :
    ∃ history, (inlineLayer direction source).1.HasHistory history := by
  cases direction with
  | forward => exact ⟨_, .ofPairs _⟩
  | reverse => exact ⟨_, .empty⟩

section Compile

variable {builtin : Lexicon} {options : Options} {bytes : Bytes}

/-- The layer below the map file: the built-in names, unless they are ignored. -/
def lowestLayer (builtin : Lexicon) (options : Options) : Lexicon :=
  if options.ignoreBuiltin then .empty else builtin

theorem exists_hasHistory_lowestLayer {history : History} (h : builtin.HasHistory history)
    (options : Options) : ∃ history', (lowestLayer builtin options).HasHistory history' := by
  unfold lowestLayer
  split
  · exact ⟨_, .empty⟩
  · exact ⟨_, h⟩

/-- A script compiled with this layer below a map file of this text. -/
def compileOver (lowest : Lexicon) (text : Text) (direction : Direction) (script : Text) :
    Compiled :=
  let inline := inlineLayer direction script
  let lexicon := ((lowest.merge (.ofMapFile text)).merge inline.1).sort
  ⟨lexicon.substitute direction inline.2, lexicon, []⟩

/-- With a map file that can be read, compiling fails only if no transliterator has the name that
the options give. -/
theorem compile_of_decode [RegexCompiler] {units : UnitTable} {text : Text}
    (h : options.charset.decode bytes = .ok text) (path : String) (direction : Direction)
    (source : Text) :
    compile units builtin options (some ⟨path, .ok bytes⟩) direction source =
      ((Transliterator.ofName options.directive units).mapError .directive).map
        fun transliterator =>
          compileOver (lowestLayer builtin options) text direction
            (transliterator.transliterate source) := by
  rw [compile]
  cases Transliterator.ofName options.directive units with
  | error error => rfl
  | ok transliterator =>
    have hlayer := fun builtin => @layer_eq_ok builtin _ _ _ _ (externalLayer_of_decode h path)
      direction (transliterator.transliterate source)
    simp only [Except.mapError, bind, Except.bind, hlayer]
    rfl

/-- The second half of a map file does the same over the first half as in one file. -/
theorem text_compileOver_append_newline {lowest : Lexicon} {history : History}
    (h : lowest.HasHistory history) (a b : Text) (direction : Direction) (script : Text) :
    (compileOver lowest (a ++ '\n' :: b) direction script).text =
      (compileOver (lowest.merge (.ofMapFile a)) b direction script).text := by
  obtain ⟨inner, hinner⟩ := exists_hasHistory_inlineLayer direction script
  have hwhole : (Lexicon.ofMapFile (a ++ '\n' :: b)).HasHistory
      ((Layer.ofMapFile a).writes ++ (Layer.ofMapFile b).writes) :=
    WordDirective.hasHistory_append_newline (by decide) a b
  have hone := ((h.merge hwhole).merge hinner).sort
  have htwo := (((h.merge (Layer.ofMapFile a).hasHistory).merge
    (Layer.ofMapFile b).hasHistory).merge hinner).sort
  rw [List.append_assoc history] at htwo
  exact Lexicon.substitute_eq_of_hasHistory hone htwo direction _

end Compile

/-- A map file that is divided at the end of a line says the same as its two parts, the second
layered over the first, and so do the directives of a script. A script is compiled to the same text
with the file as with the second part over the first. -/
theorem overlays_append_newline [RegexCompiler] (a b : Text) :
    (Lexicon.ofMapFile (a ++ '\n' :: b)).Overlays (.ofMapFile a) (.ofMapFile b) ∧
      (WordDirective.extract (a ++ '\n' :: b)).1.Overlays (WordDirective.extract a).1
        (WordDirective.extract b).1 ∧
      ∀ (units : UnitTable) (builtin : Lexicon) (history : History) (options : Options)
        (path path' : String) (bytes bytes' : Bytes) (direction : Direction) (source : Text),
        builtin.HasHistory history → options.charset.decode bytes = .ok (a ++ '\n' :: b) →
        options.charset.decode bytes' = .ok b →
        (compile units builtin options (some ⟨path, .ok bytes⟩) direction source).map
            (fun compiled => (compiled.text, compiled.warnings)) =
          (compile units ((lowestLayer builtin options).merge (.ofMapFile a))
            { options with ignoreBuiltin := false } (some ⟨path', .ok bytes'⟩) direction source).map
            fun compiled => (compiled.text, compiled.warnings) := by
  refine ⟨?_, ?_, ?_⟩
  · exact Lexicon.overlays_of_hasHistory (WordDirective.hasHistory_append_newline (by decide) a b)
      (.ofPairs _) (.ofPairs _)
  · exact Lexicon.overlays_of_hasHistory (WordDirective.hasHistory_append_newline (by decide) a b)
      (.ofPairs _) (.ofPairs _)
  · intro units builtin history options path path' bytes bytes' direction source hb h h'
    obtain ⟨lowest, hlowest⟩ := exists_hasHistory_lowestLayer hb options
    have hsecond := @compile_of_decode ((lowestLayer builtin options).merge (.ofMapFile a))
      { options with ignoreBuiltin := false } bytes' _ units b h' path' direction source
    rw [compile_of_decode h, hsecond]
    cases Transliterator.ofName options.directive units with
    | error error => rfl
    | ok transliterator =>
      have htext := text_compileOver_append_newline hlowest a b direction
        (transliterator.transliterate source)
      exact congrArg (fun text => Except.ok (text, [])) htext

/-- A directive that is not ended on the last line of the first part. -/
theorem overlays_append_newline_of_unended_directive :
    let a := "ADD do::x;\nSET by::".toList
    let b := "y;\nADD do::z;".toList
    let file := fun text => some (⟨"words.map", .ok (Utf8.encode text)⟩ : MapFile)
    (Lexicon.ofMapFile (a ++ '\n' :: b)).get? "do".toList = some "z".toList ∧
      (Lexicon.ofMapFile (a ++ '\n' :: b)).get? "by".toList = none ∧
      (compile (.ofUnits ∅) (.ofPairs [("by".toList, "z".toList)]) {} (file (a ++ '\n' :: b))
          .reverse "z x".toList).map (fun compiled => (compiled.text, compiled.warnings)) =
        (compile (.ofUnits ∅)
          ((lowestLayer (.ofPairs [("by".toList, "z".toList)]) {}).merge (.ofMapFile a)) {} (file b)
          .reverse "z x".toList).map fun compiled => (compiled.text, compiled.warnings) := by
  intro a b file
  obtain ⟨hfile, -, hcompile⟩ := overlays_append_newline a b
  refine ⟨(hfile.get?_eq _).trans (by decide +kernel),
    (hfile.get?_eq _).trans (by decide +kernel), ?_⟩
  exact hcompile _ _ _ {} _ _ _ _ .reverse "z x".toList (.ofPairs _) (by decide +kernel)
    (by decide +kernel)

end Wordbridge
