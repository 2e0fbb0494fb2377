import Wordbridge.CommandLine.Setup
import Wordbridge.Proofs.Compilation
import Wordbridge.Proofs.Division
import Wordbridge.Proofs.FileAccess

/-!
# What compiling a script comes to

A script cannot be compiled for four reasons, of which the first that applies
is the one given (`Fails`): no directive can have the name, the map file cannot
be read, it cannot be decoded, or it does not exist and the options say to
abort. There is no other reason, and every other script is compiled
(`Succeeds`), with a warning if there is no map file at the path:

* `compile_of_fails`, `compile_of_succeeds`: what compiling gives;
* `fails_or_succeeds`: one of the two is the case;
* `isName_of_resolveOptions`: the options of a command line have an ASCII
  identifier for the directive.
-/

namespace Wordbridge

open Transliterator (IsDirectiveName)

/-- The error with which a script fails to be compiled, if `read` is what reading files gives. -/
inductive Fails [RegexCompiler] (options : Options) (read : String → Except FileError Bytes) :
    CompileError → Prop
  | directive (unnamed : ¬ IsDirectiveName options.directive) :
    Fails options read (.directive ⟨options.directive⟩)
  | unreadable {path : String} {error : FileError} (named : IsDirectiveName options.directive)
    (asked : options.map = some path) (unread : read path = .error error)
    (there : error ≠ .notFound) : Fails options read (.mapFile (.unreadable path error))
  | undecodable {path : String} {bytes : Bytes} {error : CharsetError}
    (named : IsDirectiveName options.directive) (asked : options.map = some path)
    (content : read path = .ok bytes) (undecoded : options.charset.decode bytes = .error error) :
    Fails options read (.mapFile (.undecodable path error))
  | missing {path : String} (named : IsDirectiveName options.directive)
    (asked : options.map = some path) (notThere : read path = .error .notFound)
    (abort : options.missingMap = .abort) : Fails options read (.missingMapFile path)

/-- A script is compiled with a map file of this text, and with these warnings. -/
inductive Succeeds [RegexCompiler] (options : Options) (read : String → Except FileError Bytes) :
    Text → List CompileWarning → Prop
  | notRequested (named : IsDirectiveName options.directive) (unasked : options.map = none) :
    Succeeds options read [] []
  | decoded {path : String} {bytes : Bytes} {text : Text} (named : IsDirectiveName options.directive)
    (asked : options.map = some path) (content : read path = .ok bytes)
    (decoded : options.charset.decode bytes = .ok text) : Succeeds options read text []
  | missing {path : String} (named : IsDirectiveName options.directive)
    (asked : options.map = some path) (notThere : read path = .error .notFound)
    (proceed : options.missingMap = .proceed) : Succeeds options read [] [.missingMapFile path]

/-- The map file that the options name, as it is read. -/
def mapFileOf (options : Options) (read : String → Except FileError Bytes) : Option MapFile :=
  options.map.map fun path => ⟨path, read path⟩

theorem externalLayer_of_notFound {options : Options}
    {read : String → Except FileError Bytes} {path : String} (asked : options.map = some path)
    (notThere : read path = .error .notFound) :
    externalLayer (mapFileOf options read) options.charset =
      .ok (.ofMapFile [], .missing path) := by
  rw [mapFileOf, asked, Option.map_some, notThere, ofMapFile_nil]
  rfl

theorem checkExternal_ne_directive (policy : MissingMapPolicy) (external : External)
    (error : InvalidDirective) : checkExternal policy external ≠ .error (.directive error) := by
  cases external with
  | missing path => cases policy <;> exact nofun
  | _ => exact nofun

section Steps

variable [RegexCompiler] {units : UnitTable} {builtin : Lexicon} {options : Options}
  {map : Option MapFile} {direction : Direction} {source : Text}

theorem compile_of_not_isDirectiveName (h : ¬ IsDirectiveName options.directive) :
    compile units builtin options map direction source =
      .error (.directive ⟨options.directive⟩) := by
  rw [compile, Transliterator.ofName_eq_error_iff.2 ⟨h, rfl⟩]
  rfl

theorem compile_of_externalLayer_error (h : IsDirectiveName options.directive)
    {error : MapFileError} (hlayer : externalLayer map options.charset = .error error) :
    compile units builtin options map direction source = .error (.mapFile error) := by
  rw [compile, Transliterator.ofName_eq_ok_iff.2 ⟨h, rfl⟩]
  simp only [layer, hlayer]
  rfl

/-- Once the words of the map file are there, all that is left to go wrong is the policy about a
missing file. -/
theorem compile_of_externalLayer_ok (h : IsDirectiveName options.directive) {text : Text}
    {external : External}
    (hlayer : externalLayer map options.charset = .ok (.ofMapFile text, external)) :
    compile units builtin options map direction source =
      (checkExternal options.missingMap external).map fun warnings =>
        { compileOver (lowestLayer builtin options) text direction
            (Transliterator.transliterate ⟨options.directive, units⟩ source) with warnings } := by
  rw [compile, Transliterator.ofName_eq_ok_iff.2 ⟨h, rfl⟩]
  simp only [Except.mapError, bind, Except.bind, layer_eq_ok hlayer]
  cases checkExternal options.missingMap external with
  | error error => rfl
  | ok warnings => rfl

/-- Only the first step of compiling a script gives an error about the directive. -/
theorem compile_ne_directive (h : IsDirectiveName options.directive) (error : InvalidDirective) :
    compile units builtin options map direction source ≠ .error (.directive error) := by
  intro herror
  obtain hname | ⟨transliterator, herror⟩ := error_or_ok_of_bind_eq_error herror
  · obtain ⟨error', hname, -⟩ := exists_of_mapError_eq_error hname
    exact (Transliterator.ofName_eq_error_iff.1 hname).1 h
  · obtain hlayer | ⟨layered, herror⟩ := error_or_ok_of_bind_eq_error herror
    · obtain ⟨error', -, hmap⟩ := exists_of_mapError_eq_error hlayer
      cases hmap
    · obtain hcheck | ⟨warnings, herror⟩ := error_or_ok_of_bind_eq_error herror
      · exact checkExternal_ne_directive _ _ error hcheck
      · cases herror

end Steps

section Outcome

variable [RegexCompiler] {options : Options} {read : String → Except FileError Bytes}

namespace Succeeds

variable {text : Text} {warnings : List CompileWarning}

theorem isDirectiveName (h : Succeeds options read text warnings) :
    IsDirectiveName options.directive := by
  cases h <;> assumption

theorem of_notFound (h : Succeeds options read text warnings) {path : String}
    (hasked : options.map = some path) (hread : read path = .error .notFound) :
    text = [] ∧ warnings = [.missingMapFile path] := by
  cases h with
  | notRequested named unasked =>
    rw [hasked] at unasked
    cases unasked
  | decoded named asked content decoded =>
    cases hasked.symm.trans asked
    cases hread.symm.trans content
  | missing named asked notThere proceed =>
    cases hasked.symm.trans asked
    exact ⟨rfl, rfl⟩

theorem warnings_eq_nil (h : Succeeds options read text warnings)
    (there : ∀ path, options.map = some path → read path ≠ .error .notFound) : warnings = [] := by
  cases h with
  | notRequested named unasked => rfl
  | decoded named asked content decoded => rfl
  | missing named asked notThere proceed => exact absurd notThere (there _ asked)

end Succeeds

theorem exists_fails_directive_iff :
    (∃ error, Fails options read (.directive error)) ↔ ¬ IsDirectiveName options.directive := by
  constructor
  · rintro ⟨error, herror⟩
    cases herror with
    | directive unnamed => exact unnamed
  · intro unnamed
    exact ⟨_, .directive unnamed⟩

theorem compile_of_fails {error : CompileError} (h : Fails options read error) (units : UnitTable)
    (builtin : Lexicon) (direction : Direction) (source : Text) :
    compile units builtin options (mapFileOf options read) direction source = .error error := by
  cases h with
  | directive unnamed => exact compile_of_not_isDirectiveName unnamed
  | @unreadable path error named asked unread there =>
    refine compile_of_externalLayer_error named ?_
    rw [mapFileOf, asked, Option.map_some, unread, externalLayer]
    cases error <;> first | rfl | exact absurd rfl there
  | undecodable named asked content undecoded =>
    refine compile_of_externalLayer_error named ?_
    rw [mapFileOf, asked, Option.map_some, content, externalLayer]
    simp only [MapFile.lexicon?, undecoded]
    rfl
  | missing named asked notThere abort =>
    rw [compile_of_externalLayer_ok named (externalLayer_of_notFound asked notThere), abort]
    rfl

theorem compile_of_succeeds {text : Text} {warnings : List CompileWarning}
    (h : Succeeds options read text warnings) (units : UnitTable) (builtin : Lexicon)
    (direction : Direction) (source : Text) :
    compile units builtin options (mapFileOf options read) direction source =
      .ok { compileOver (lowestLayer builtin options) text direction
        (Transliterator.transliterate ⟨options.directive, units⟩ source) with warnings } := by
  cases h with
  | notRequested named unasked =>
    have hlayer : externalLayer (mapFileOf options read) options.charset =
        .ok (.ofMapFile [], .notRequested) := by
      rw [mapFileOf, unasked, ofMapFile_nil]
      rfl
    rw [compile_of_externalLayer_ok named hlayer]
    rfl
  | decoded named asked content decoded =>
    have hlayer := externalLayer_of_decode decoded
    rw [mapFileOf, asked, Option.map_some, content, compile_of_externalLayer_ok named (hlayer _)]
    rfl
  | missing named asked notThere proceed =>
    rw [compile_of_externalLayer_ok named (externalLayer_of_notFound asked notThere), proceed]
    rfl

theorem fails_or_succeeds (options : Options) (read : String → Except FileError Bytes) :
    (∃ error, Fails options read error) ∨ ∃ text warnings, Succeeds options read text warnings := by
  by_cases named : IsDirectiveName options.directive
  swap
  · exact .inl ⟨_, .directive named⟩
  cases asked : options.map with
  | none => exact .inr ⟨_, _, .notRequested named asked⟩
  | some path =>
    cases content : read path with
    | ok bytes =>
      cases decoded : options.charset.decode bytes with
      | ok text => exact .inr ⟨_, _, .decoded named asked content decoded⟩
      | error error => exact .inl ⟨_, .undecodable named asked content decoded⟩
    | error error =>
      by_cases there : error = .notFound
      swap
      · exact .inl ⟨_, .unreadable named asked content there⟩
      rw [there] at content
      cases policy : options.missingMap with
      | abort => exact .inl ⟨_, .missing named asked content policy⟩
      | proceed => exact .inr ⟨_, _, .missing named asked content policy⟩

theorem compile_eq_error_iff_fails {units : UnitTable} {builtin : Lexicon} {direction : Direction}
    {source : Text} {error : CompileError} :
    compile units builtin options (mapFileOf options read) direction source = .error error ↔
      Fails options read error := by
  refine ⟨fun h => ?_, fun h => compile_of_fails h units builtin direction source⟩
  rcases fails_or_succeeds options read with ⟨error', hfails⟩ | ⟨text, warnings, hsucceeds⟩
  · rw [compile_of_fails hfails] at h
    cases h
    exact hfails
  · rw [compile_of_succeeds hsucceeds] at h
    cases h

theorem exists_succeeds_of_compile_eq_ok {units : UnitTable} {builtin : Lexicon}
    {direction : Direction} {source : Text} {compiled : Compiled}
    (h : compile units builtin options (mapFileOf options read) direction source = .ok compiled) :
    ∃ text warnings, Succeeds options read text warnings ∧
      compiled = { compileOver (lowestLayer builtin options) text direction
        (Transliterator.transliterate ⟨options.directive, units⟩ source) with warnings } := by
  rcases fails_or_succeeds options read with ⟨error, hfails⟩ | ⟨text, warnings, hsucceeds⟩
  · rw [compile_of_fails hfails] at h
    cases h
  · rw [compile_of_succeeds hsucceeds] at h
    exact ⟨text, warnings, hsucceeds, (Except.ok.inj h).symm⟩

end Outcome

/-! ## The options of a command line -/

namespace Settings

theorem isName_of_parse {document : Text} {settings : Settings}
    (h : parse document = .ok settings) : Text.IsName settings.directive := by
  obtain ⟨⟨compile, directive⟩, -, h⟩ := exists_of_bind_eq_ok h
  simp only [ofTables] at h
  split at h
  · cases h
  · split at h
    next hname =>
      cases h
      exact Text.isIdentifier_iff.1 hname
    next => cases h

end Settings

namespace CommandLine

theorem directive_of_overrideOptions {flags : Flags} {options options' : Options}
    (h : overrideOptions flags options = .ok options') : options'.directive = options.directive := by
  rw [overrideOptions] at h
  split at h
  next =>
    cases h
    rfl
  next name _ =>
    obtain ⟨charset, -, h⟩ := exists_of_bind_eq_ok h
    cases h
    rfl

variable {σ : Type} [FileAccess (StateM σ)] {files : σ} {flags : Flags}

theorem isName_of_readSettings {settings : Settings}
    (h : valueAt files (readSettings flags) = .ok settings) : Text.IsName settings.directive := by
  rw [readSettings] at h
  split at h
  next =>
    rw [← Except.ok.inj h]
    exact Settings.isName_of_parse Settings.parse_defaultText
  next path _ =>
    rw [valueAt_bind] at h
    cases hread : valueAt files (readDocument path : StateM σ _) with
    | error error =>
      rw [hread] at h
      cases h
    | ok document =>
      rw [hread] at h
      exact Settings.isName_of_parse (eq_ok_of_mapError_eq_ok h)

theorem isName_of_resolveOptions {options : Options}
    (h : valueAt files (resolveOptions flags) = .ok options) : Text.IsName options.directive := by
  rw [resolveOptions, valueAt_bind] at h
  cases hread : valueAt files (readSettings flags : StateM σ _) with
  | error error =>
    rw [hread] at h
    cases h
  | ok settings =>
    rw [hread] at h
    rw [directive_of_overrideOptions h]
    exact isName_of_readSettings hread

end CommandLine

section Files

variable {σ : Type} [FileAccess (StateM σ)]

/-- What reading each file gives. -/
def contentAt (files : σ) (path : String) : Except FileError Bytes :=
  valueAt files (FileAccess.read path)

/-- Compiles a script with the map file that is among these files. -/
def compileAt [RegexCompiler] (files : σ) (units : UnitTable) (builtin : Lexicon)
    (options : Options) (direction : Direction) (source : Text) : Except CompileError Compiled :=
  compile units builtin options (valueAt files (readMapFile options)) direction source

theorem valueAt_readMapFile (files : σ) (options : Options) :
    valueAt files (readMapFile options) = mapFileOf options (contentAt files) := by
  rw [readMapFile, mapFileOf]
  cases options.map with
  | none => rfl
  | some path => rfl

/-- Compiling fails for the reasons of `Fails`, and for no other. If the regular expression of the
directive is accepted, it fails on account of the directive only if that is no ASCII identifier, and
the directive of a command line always is one. A script that is compiled has a warning if there is
no file at the path of the map, and is then compiled as without a map. -/
theorem compileAt_eq_error_iff_and_warnings [RegexCompiler] (files : σ) :
    (∀ (units : UnitTable) (builtin : Lexicon) (options : Options) (direction : Direction)
        (source : Text),
      (∀ error, compileAt files units builtin options direction source = .error error ↔
        Fails options (contentAt files) error) ∧
      ((∃ compiled, compileAt files units builtin options direction source = .ok compiled) ↔
        ∀ error, ¬ Fails options (contentAt files) error) ∧
      ((Text.IsName options.directive →
          RegexCompiler.Accepts (Transliterator.expression options.directive)) →
        ((∃ error, compileAt files units builtin options direction source =
          .error (.directive error)) ↔ ¬ Text.IsName options.directive)) ∧
      ∀ compiled, compileAt files units builtin options direction source = .ok compiled →
        (∀ path, options.map = some path → contentAt files path = .error .notFound →
          compiled.warnings = [.missingMapFile path] ∧
          compileAt files units builtin { options with map := none } direction source =
            .ok { compiled with warnings := [] }) ∧
        ((∀ path, options.map = some path → contentAt files path ≠ .error .notFound) →
          compiled.warnings = [])) ∧
    ∀ (flags : CommandLine.Flags) (options : Options),
      valueAt files (CommandLine.resolveOptions flags) = .ok options →
      Text.IsName options.directive ∧
      (RegexCompiler.Accepts (Transliterator.expression options.directive) →
        ∀ (units : UnitTable) (builtin : Lexicon) (map : Option MapFile) (direction : Direction)
          (source : Text) (error : InvalidDirective),
          compile units builtin options map direction source ≠ .error (.directive error)) := by
  refine ⟨fun units builtin options direction source => ?_, ?_⟩
  · have hfails : ∀ error, compileAt files units builtin options direction source = .error error ↔
        Fails options (contentAt files) error := fun error => by
      rw [compileAt, valueAt_readMapFile]
      exact compile_eq_error_iff_fails
    refine ⟨hfails, ⟨?_, fun hnone => ?_⟩, fun accepted => ?_, fun compiled hok => ?_⟩
    · rintro ⟨compiled, hok⟩ error herror
      rw [(hfails error).2 herror] at hok
      cases hok
    · cases hresult : compileAt files units builtin options direction source with
      | error error => exact absurd ((hfails error).1 hresult) (hnone error)
      | ok compiled => exact ⟨compiled, rfl⟩
    · simp only [hfails, exists_fails_directive_iff,
        Transliterator.isDirectiveName_iff_isName accepted]
    · rw [compileAt, valueAt_readMapFile] at hok
      obtain ⟨text, warnings, hs, rfl⟩ := exists_succeeds_of_compile_eq_ok hok
      refine ⟨fun path asked notThere => ?_, hs.warnings_eq_nil⟩
      obtain ⟨rfl, rfl⟩ := hs.of_notFound asked notThere
      have hs' : Succeeds { options with map := none } (contentAt files) [] [] :=
        .notRequested hs.isDirectiveName rfl
      exact ⟨rfl, compile_of_succeeds hs' units builtin direction source⟩
  · intro flags options h
    have hname := CommandLine.isName_of_resolveOptions h
    refine ⟨hname, fun accepted units builtin map direction source error => ?_⟩
    exact compile_ne_directive ⟨hname, accepted⟩ error

end Files

/-- Settings that name a map file that does not exist. Whether that is an error is up to the policy,
but an invalid directive is one in any case. -/
theorem compileAt_of_missing_map :
    let files : FileTree := ({} : FileTree).add "settings" (.file (Utf8.encode
      "[compile]\ncharset = \"UTF-8\"\nmap = \"a.map\"\n[translit]\ndirective = \"t\"\n".toList))
    let options : Options := { map := some "a.map", directive := "t".toList }
    let compileWith := fun options => compileAt files (.ofUnits ∅)
      (.ofPairs [("do".toList, "x".toList)]) options .forward "do".toList
    valueAt files (CommandLine.resolveOptions { config := some "settings" }) = .ok options ∧
      RegexCompiler.Accepts (Transliterator.expression options.directive) ∧
      (∀ map error, compile (.ofUnits ∅) .empty options map .forward "do".toList ≠
        .error (.directive error)) ∧
      (∃ compiled, compileWith options = .ok compiled ∧
        compiled.warnings = [.missingMapFile "a.map"] ∧
        compileWith { options with map := none } = .ok { compiled with warnings := [] }) ∧
      compileWith { options with missingMap := .abort } = .error (.missingMapFile "a.map") ∧
      compileWith { options with missingMap := .abort, directive := "2t".toList } =
        .error (.directive ⟨"2t".toList⟩) := by
  intro files options compileWith
  have hnot : contentAt files "a.map" = .error .notFound := by decide +kernel
  have hoptions : valueAt files (CommandLine.resolveOptions { config := some "settings" }) =
      .ok options := by
    decide +kernel
  have hname : Text.IsName "t".toList := Text.isIdentifier_iff.1 (by decide)
  have hunnamed : ¬ Text.IsName "2t".toList := fun h =>
    absurd (Text.isIdentifier_iff.2 h) (by decide)
  obtain ⟨hcompile, hresolve⟩ := compileAt_eq_error_iff_and_warnings files
  have haccepts : RegexCompiler.Accepts (Transliterator.expression "t".toList) := by decide
  refine ⟨hoptions, haccepts,
    fun map error => (hresolve _ _ hoptions).2 haccepts _ _ map _ _ error, ?_, ?_, ?_⟩
  · obtain ⟨-, hok, -, hcompiled⟩ := hcompile (.ofUnits ∅) (.ofPairs [("do".toList, "x".toList)])
      options .forward "do".toList
    obtain ⟨compiled, hcompile⟩ := hok.2 fun error herror => by
      cases herror with
      | directive unnamed => exact unnamed ⟨hname, haccepts⟩
      | unreadable named asked unread there =>
        cases asked
        cases hnot.symm.trans unread
        exact there rfl
      | undecodable named asked content undecoded =>
        cases asked
        cases hnot.symm.trans content
      | missing named asked notThere abort => cases abort
    exact ⟨compiled, hcompile, (hcompiled compiled hcompile).1 _ rfl hnot⟩
  · exact ((hcompile _ _ _ _ _).1 _).2 (.missing ⟨hname, haccepts⟩ rfl hnot rfl)
  · exact ((hcompile _ _ _ _ _).1 _).2 (.directive fun h => hunnamed h.1)

end Wordbridge
