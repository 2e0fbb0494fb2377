import Wordbridge.Compilation
import Wordbridge.Proofs.RoundTrip
import Wordbridge.Proofs.Transliteration
import Wordbridge.Proofs.WordDirective

/-!
# Compiling forward and back

A script without directives is compiled with a lexicon that depends neither on
the script nor on the direction (`compile_eq_of_noDirective`). So a script that
is a row of tokens comes back from being compiled forward and then in reverse.
-/

namespace Wordbridge

section Steps

variable {ε ε' α β : Type}

/-- A computation of two steps succeeds if both do. -/
theorem exists_of_bind_eq_ok {first : Except ε α} {next : α → Except ε β} {b : β}
    (h : first >>= next = .ok b) : ∃ a, first = .ok a ∧ next a = .ok b := by
  cases first with
  | error error => cases h
  | ok a => exact ⟨a, rfl, h⟩

theorem eq_ok_of_mapError_eq_ok {f : ε → ε'} {result : Except ε α} {a : α}
    (h : result.mapError f = .ok a) : result = .ok a := by
  cases result with
  | error error => cases h
  | ok a' => exact congrArg Except.ok (Except.ok.inj h)

/-- A computation of two steps fails in one of them. -/
theorem error_or_ok_of_bind_eq_error {first : Except ε α} {next : α → Except ε β} {error : ε}
    (h : first >>= next = .error error) : first = .error error ∨ ∃ a, next a = .error error := by
  cases first with
  | error error' => exact .inl (congrArg _ (Except.error.inj h))
  | ok a => exact .inr ⟨a, h⟩

theorem exists_of_mapError_eq_error {f : ε → ε'} {result : Except ε α} {error : ε'}
    (h : result.mapError f = .error error) : ∃ error', result = .error error' ∧ f error' = error := by
  cases result with
  | error error' => exact ⟨error', rfl, Except.error.inj h⟩
  | ok a => cases h

end Steps

namespace WordDirective

/-- A text without keywords has no directives. -/
theorem findAll_eq_nil {keywords : List Text} {text : Text}
    (h : ∀ keyword ∈ keywords, ¬ keyword <:+: text) : findAll keywords text = [] := by
  refine findAll_eq_nil_iff.2 fun d hkeyword _ hi => h d.keyword hkeyword ?_
  have hp : d.keyword <+: d.source := by simp [source]
  exact hp.isInfix.trans hi

theorem extract_eq_self {source : Text} (h : ¬ "#add ".toList <:+: source) :
    extract source = (.empty, source) := by
  have hn : findAll inlineKeywords source = [] :=
    findAll_eq_nil fun keyword hk => by rwa [List.mem_singleton.1 hk]
  rw [extract, hn]
  rfl

end WordDirective

section Shared

variable [RegexCompiler] {units : UnitTable} {builtin : Lexicon} {options : Options}
  {map : Option MapFile}

/-- The lexicon and the warnings with which every script without directives is compiled. -/
def sharedSetup (units : UnitTable) (builtin : Lexicon) (options : Options) (map : Option MapFile) :
    Except CompileError (Lexicon × List CompileWarning) := do
  let _ ← (Transliterator.ofName options.directive units).mapError .directive
  let builtin := if options.ignoreBuiltin then Lexicon.empty else builtin
  let (outer, external) ← (externalLayer map options.charset).mapError .mapFile
  let warnings ← checkExternal options.missingMap external
  return (((builtin.merge outer).merge .empty).sort, warnings)

/-- Neither the script nor the direction changes the lexicon, if there are no directives. -/
theorem compile_eq_of_noDirective {direction : Direction} {source : Text}
    (hname : ¬ options.directive ++ ['('] <:+: source)
    (hadd : direction = .forward → ¬ "#add ".toList <:+: source) :
    compile units builtin options map direction source =
      (sharedSetup units builtin options map).map fun (lexicon, warnings) =>
        ⟨lexicon.substitute direction source, lexicon, warnings⟩ := by
  have hinline : inlineLayer direction source = (.empty, source) := by
    cases direction with
    | forward => exact WordDirective.extract_eq_self (hadd rfl)
    | reverse => rfl
  rw [compile, sharedSetup]
  cases hdirective : Transliterator.ofName options.directive units with
  | error error => rfl
  | ok transliterator =>
    obtain ⟨-, rfl⟩ := Transliterator.ofName_eq_ok_iff.1 hdirective
    have ht : Transliterator.transliterate ⟨options.directive, units⟩ source = source :=
      Transliterator.transliterate_eq_self hname
    simp only [Except.mapError, bind, Except.bind, ht, layer, hinline]
    cases externalLayer map options.charset with
    | error error => rfl
    | ok result =>
      obtain ⟨outer, external⟩ := result
      simp only [pure, Except.pure]
      cases checkExternal options.missingMap external with
      | error error => rfl
      | ok warnings => rfl

theorem compile_eq_ok_iff_of_noDirective (direction : Direction) {source : Text}
    {compiled : Compiled} (hname : ¬ options.directive ++ ['('] <:+: source)
    (hadd : direction = .forward → ¬ "#add ".toList <:+: source) :
    compile units builtin options map direction source = .ok compiled ↔
      ∃ lexicon warnings, sharedSetup units builtin options map = .ok (lexicon, warnings) ∧
        compiled = ⟨lexicon.substitute direction source, lexicon, warnings⟩ := by
  rw [compile_eq_of_noDirective hname hadd]
  cases sharedSetup units builtin options map with
  | error error => exact ⟨fun h => (by cases h), fun ⟨_, _, h, _⟩ => (by cases h)⟩
  | ok setup =>
    obtain ⟨lexicon, warnings⟩ := setup
    constructor
    · intro h
      cases h
      exact ⟨lexicon, warnings, rfl, rfl⟩
    · rintro ⟨lexicon', warnings', h, rfl⟩
      cases h
      rfl

end Shared

/-! ## The lexicon comes about by writes -/

theorem hasHistory_of_mapFile {file : MapFile} {charset : Charset} {lexicon : Lexicon}
    (h : file.lexicon? charset = .ok (some lexicon)) : ∃ history, lexicon.HasHistory history := by
  unfold MapFile.lexicon? at h
  split at h
  · cases h
  · cases h
  · split at h
    · cases h
    · cases h
      exact ⟨_, .ofPairs _⟩

theorem hasHistory_of_externalLayer {map : Option MapFile} {charset : Charset} {outer : Lexicon}
    {external : External} (h : externalLayer map charset = .ok (outer, external)) :
    ∃ history, outer.HasHistory history := by
  cases map with
  | none =>
    cases h
    exact ⟨_, .empty⟩
  | some file =>
    obtain ⟨found, hl, h⟩ := exists_of_bind_eq_ok h
    cases found with
    | none =>
      cases h
      exact ⟨_, .empty⟩
    | some lexicon =>
      cases h
      exact hasHistory_of_mapFile hl

section RoundTrip

variable [RegexCompiler] {units : UnitTable} {builtin : Lexicon} {options : Options}
  {map : Option MapFile}

theorem hasHistory_of_sharedSetup {history : History} (hb : builtin.HasHistory history)
    {lexicon : Lexicon} {warnings : List CompileWarning}
    (h : sharedSetup units builtin options map = .ok (lexicon, warnings)) :
    ∃ history', lexicon.HasHistory history' := by
  obtain ⟨_, -, h⟩ := exists_of_bind_eq_ok h
  obtain ⟨⟨outer, external⟩, he, h⟩ := exists_of_bind_eq_ok h
  obtain ⟨_, -, h⟩ := exists_of_bind_eq_ok h
  obtain ⟨_, ho⟩ := hasHistory_of_externalLayer (eq_ok_of_mapError_eq_ok he)
  cases h
  by_cases hi : options.ignoreBuiltin = true
  · rw [if_pos hi]
    exact ⟨_, .sort (.merge (.merge .empty ho) .empty)⟩
  · rw [if_neg hi]
    exact ⟨_, .sort (.merge (.merge hb ho) .empty)⟩

/-- A script that is a row of tokens, with separators between them, comes back from being compiled
forward and then in reverse, if there are no directives in it and none in between. -/
theorem compile_reverse_compile_forward {history : History} (hb : builtin.HasHistory history)
    {source : Text} {compiled : Compiled}
    (hc : compile units builtin options map .forward source = .ok compiled)
    (hrev : compiled.lexicon.Reversible) (hrow : compiled.lexicon.IsTokenRow source)
    (hadd : ¬ "#add ".toList <:+: source) (hname : ¬ options.directive ++ ['('] <:+: source)
    (hname' : ¬ options.directive ++ ['('] <:+: compiled.text) :
    ∃ back, compile units builtin options map .reverse compiled.text = .ok back ∧
      back.lexicon = compiled.lexicon ∧ back.text = source := by
  obtain ⟨lexicon, warnings, hs, rfl⟩ :=
    (compile_eq_ok_iff_of_noDirective .forward hname fun _ => hadd).1 hc
  obtain ⟨history', hl⟩ := hasHistory_of_sharedSetup hb hs
  refine ⟨_, (compile_eq_ok_iff_of_noDirective .reverse hname' ?_).2 ⟨lexicon, warnings, hs, rfl⟩,
    rfl, ?_⟩
  · exact fun hd => nomatch hd
  · exact Lexicon.substitute_reverse_forward_of_tokenRow hl hrev hrow

end RoundTrip

/-- Words of which one starts the other. -/
def branchWords : List (Text × Text) :=
  [("иначе".toList, "else".toList), ("иначеесли".toList, "elseif".toList)]

/-- A script of these words, one of them quoted. -/
def branchScript : Text :=
  "иначеесли".toList ++ ([' '] ++ ("'иначе'".toList ++ (['\n'] ++ "иначе".toList)))

theorem compile_reverse_compile_forward_branchScript :
    ∃ compiled back,
      compile (.ofUnits ∅) (.ofPairs branchWords) {} none .forward branchScript = .ok compiled ∧
        compile (.ofUnits ∅) (.ofPairs branchWords) {} none .reverse compiled.text = .ok back ∧
        back.lexicon = compiled.lexicon ∧ back.text = branchScript := by
  have hl := (((Lexicon.HasHistory.ofPairs branchWords).merge .empty).merge .empty).sort
  have hs : sharedSetup (.ofUnits ∅) (.ofPairs branchWords) {} none =
      .ok ((((Lexicon.ofPairs branchWords).merge .empty).merge .empty).sort, []) := rfl
  have hname : ¬ Options.directive {} ++ ['('] <:+: branchScript := by decide
  have hadd : ¬ "#add ".toList <:+: branchScript := by decide
  have hc := (compile_eq_ok_iff_of_noDirective .forward hname fun _ => hadd).2 ⟨_, _, hs, rfl⟩
  have hrow : (((Lexicon.ofPairs branchWords).merge .empty).merge .empty).sort.IsTokenRow
      branchScript := by
    refine .cons (.key ((Lexicon.get?_eq_value? hl _).trans rfl)) (by decide) ?_
      (.cons (.region (by decide)) (by decide) ?_
        (.last (.key ((Lexicon.get?_eq_value? hl _).trans rfl))))
    · rw [List.forall_mem_singleton]
      exact Lexicon.isSeparator_of_history hl (by decide) (by decide)
    · rw [List.forall_mem_singleton]
      exact Lexicon.isSeparator_of_history hl (by decide) (by decide)
  obtain ⟨back, hback⟩ := compile_reverse_compile_forward (.ofPairs branchWords) hc
    (Lexicon.reversible_of_history hl (by decide)) hrow hadd hname (by decide +kernel)
  exact ⟨_, back, hc, hback⟩

end Wordbridge
