import Wordbridge.CommandLine.Run
import Wordbridge.Proofs.Compilation
import Wordbridge.Proofs.FileAccess
import Wordbridge.Proofs.Session

/-!
# What commands do to files

A command is put together from parts that only read (`Reads`): such a part
leaves the files as they are, and gives a value that is determined by them or
fails with status 1. Only `compile` writes, once and at its end: if the script
can be compiled into bytes (`CompilesTo`), these become the content of the
output, and no other file changes.
-/

namespace Wordbridge.CommandLine

variable {σ ε α β : Type}

/-! ## Parts that only read -/

/-- The result of a part of a command on these files, and the files afterwards. -/
def runOn (files : σ) (part : ExceptT Outcome (StateM σ) α) : Except Outcome α × σ :=
  part.run.run files

theorem orCrash_ok (expectation : String) (a : α) :
    (orCrash expectation (.ok a : Except ε α) : ExceptT Outcome (StateM σ) α) = pure a := rfl

/-- A part of a command that only reads. It gives the one value that satisfies `Gives`; if there is
none, it fails with status 1. -/
inductive Reads (part : ExceptT Outcome (StateM σ) α) (files : σ) (Gives : α → Prop) : Prop
  | gives {a : α} (hrun : runOn files part = (.ok a, files)) (hiff : ∀ b, Gives b ↔ b = a)
  | fails {outcome : Outcome} (hrun : runOn files part = (.error outcome, files))
      (hstatus : outcome.status = 1) (hnone : ∀ b, ¬Gives b)

theorem run_bind_of_ok {part : ExceptT Outcome (StateM σ) α}
    {next : α → ExceptT Outcome (StateM σ) β} {files files' : σ} {a : α}
    (h : runOn files part = (.ok a, files')) :
    runOn files (part >>= next) = runOn files' (next a) := by
  unfold runOn at h ⊢
  rw [ExceptT.run_bind, StateT.run_bind, h]
  rfl

theorem run_bind_of_error {part : ExceptT Outcome (StateM σ) α}
    {next : α → ExceptT Outcome (StateM σ) β} {files files' : σ} {outcome : Outcome}
    (h : runOn files part = (.error outcome, files')) :
    runOn files (part >>= next) = (.error outcome, files') := by
  unfold runOn at h ⊢
  rw [ExceptT.run_bind, StateT.run_bind, h]
  rfl

theorem run_bind_lift (action : StateM σ α) (next : α → ExceptT Outcome (StateM σ) β) (files : σ) :
    runOn files (liftM action >>= next) =
      runOn (action.run files).2 (next (valueAt files action)) := rfl

namespace Reads

variable {part : ExceptT Outcome (StateM σ) α} {next : α → ExceptT Outcome (StateM σ) β} {files : σ}
  {Gives Gives' : α → Prop} {GivesNext : α → β → Prop}

theorem congr (h : Reads part files Gives) (hiff : ∀ a, Gives a ↔ Gives' a) :
    Reads part files Gives' := by
  cases h with
  | gives hrun hgives => exact .gives hrun fun b => (hiff b).symm.trans (hgives b)
  | fails hrun hstatus hnone => exact .fails hrun hstatus fun b hb => hnone b ((hiff b).2 hb)

theorem run_snd (h : Reads part files Gives) : (runOn files part).2 = files := by
  cases h with
  | gives hrun => rw [hrun]
  | fails hrun => rw [hrun]

theorem pure (a : α) : Reads (Pure.pure a) files (· = a) :=
  .gives rfl fun _ => .rfl

theorem failed (message stdout : String) :
    Reads (throw (.failed message stdout) : ExceptT Outcome (StateM σ) α) files fun _ => False :=
  .fails rfl rfl fun _ => id

theorem bind (h : Reads part files Gives)
    (hnext : ∀ a, Gives a → Reads (next a) files (GivesNext a)) :
    Reads (part >>= next) files fun b => ∃ a, Gives a ∧ GivesNext a b := by
  cases h with
  | fails hrun hstatus hnone =>
    exact .fails (run_bind_of_error hrun) hstatus fun b ⟨a, ha, _⟩ => hnone a ha
  | @gives a hrun hiff =>
    have hgives (b : β) : (∃ a, Gives a ∧ GivesNext a b) ↔ GivesNext a b := by
      simp only [hiff, exists_eq_left]
    refine Reads.congr ?_ fun b => (hgives b).symm
    cases hnext a ((hiff a).2 rfl) with
    | gives hrun' hiff' => exact .gives ((run_bind_of_ok hrun).trans hrun') hiff'
    | fails hrun' hstatus hnone => exact .fails ((run_bind_of_ok hrun).trans hrun') hstatus hnone

/-- A part may start with an action on the files that only reads. -/
theorem bind_lift {action : StateM σ α} {Gives : β → Prop} (h : ReadOnly action)
    (hnext : Reads (next (valueAt files action)) files Gives) :
    Reads (liftM action >>= next) files Gives := by
  have hrun := run_bind_lift action next files
  rw [h files] at hrun
  cases hnext with
  | gives hrun' hiff' => exact .gives (hrun.trans hrun') hiff'
  | fails hrun' hstatus hnone => exact .fails (hrun.trans hrun') hstatus hnone

theorem orStop (message : ε → String) (result : Except ε α) (stdout : String) :
    Reads (CommandLine.orStop message result stdout) files fun a => result = .ok a := by
  cases result with
  | ok a => exact (Reads.pure a).congr fun b => by rw [Except.ok.injEq, eq_comm]
  | error error => exact (Reads.failed (message error) stdout).congr fun b => ⟨nofun, nofun⟩

end Reads

/-! ## What is read -/

variable [FileAccess (StateM σ)]

/-- The table that a flag stands for: that of the document at its path, or without one the
default. -/
def TableAt (kind : TableKind ε α) (files : σ) : Option String → α → Prop
  | none, table => table = kind.default
  | some path, table =>
    ∃ document, valueAt files (readText path) = .ok document ∧ kind.parse document = .ok table

/-- A flag stands for one table. -/
theorem TableAt.eq {kind : TableKind ε α} {files : σ} {path : Option String} {table table' : α}
    (h : TableAt kind files path table) (h' : TableAt kind files path table') : table = table' := by
  cases path with
  | none => exact h.trans h'.symm
  | some path =>
    obtain ⟨document, hread, hparse⟩ := h
    obtain ⟨document', hread', hparse'⟩ := h'
    obtain rfl : document = document' := Except.ok.inj (hread.symm.trans hread')
    exact Except.ok.inj (hparse.symm.trans hparse')

/-- The document is at the path, it is valid, and no other one has been installed in the slot. -/
structure InstallsAt (kind : TableKind ε α) (files : σ) (path : Option String) (slot : SetOnce α)
    (document : Text) : Prop where
  read : ∃ location, path = some location ∧ valueAt files (readText location) = .ok document
  valid : ∃ table, kind.parse document = .ok table
  first : slot.custom = none

theorem InstallsAt.eq {kind : TableKind ε α} {files : σ} {path : Option String} {slot : SetOnce α}
    {document document' : Text} (h : InstallsAt kind files path slot document)
    (h' : InstallsAt kind files path slot document') : document = document' := by
  obtain ⟨⟨location, rfl, hread⟩, -, -⟩ := h
  obtain ⟨⟨location', hlocation, hread'⟩, -, -⟩ := h'
  cases hlocation
  exact Except.ok.inj (hread.symm.trans hread')

variable [FileLayout σ] [LawfulFileAccess σ]

theorem readOnly_readText (path : String) : ReadOnly (readText path : StateM σ _) := by
  refine (LawfulFileAccess.readOnly_read path).bind fun result => ?_
  cases result <;> exact .pure _

theorem readOnly_readDocument (path : String) : ReadOnly (readDocument path : StateM σ _) :=
  (readOnly_readText path).bind fun _ => .pure _

theorem readOnly_installDocument (install : Text → Except ε Tables)
    (refused : String → ε → SetupError) (path : Option String) (tables : Tables) :
    ReadOnly (installDocument install refused path tables : StateM σ _) := by
  cases path with
  | none => exact .pure _
  | some path =>
    refine (readOnly_readDocument path).bind fun result => ?_
    cases result <;> exact .pure _

theorem readOnly_installTables (flags : Flags) (tables : Tables) :
    ReadOnly (installTables flags tables : StateM σ _) := by
  refine (readOnly_installDocument _ _ flags.names tables).bind fun result => ?_
  cases result with
  | error error => exact .pure _
  | ok tables =>
    refine (readOnly_installDocument _ _ flags.translit tables).bind fun result => ?_
    cases result <;> exact .pure _

theorem readOnly_resolveOptions (flags : Flags) : ReadOnly (resolveOptions flags : StateM σ _) := by
  have hsettings : ReadOnly (readSettings flags : StateM σ _) := by
    unfold readSettings
    cases flags.config with
    | none => exact .pure _
    | some path =>
      refine (readOnly_readDocument path).bind fun result => ?_
      cases result <;> exact .pure _
  refine hsettings.bind fun result => ?_
  cases result <;> exact .pure _

theorem readOnly_checkPaths (input output : String) :
    ReadOnly (checkPaths input output : StateM σ _) := by
  unfold checkPaths
  split
  · refine (LawfulFileAccess.readOnly_isFile input).bind fun isFile => ?_
    cases isFile <;> exact .pure _
  · exact .pure _

theorem readOnly_readMapFile (options : Options) : ReadOnly (readMapFile options : StateM σ _) := by
  unfold readMapFile
  cases options.map with
  | none => exact .pure _
  | some path => exact (LawfulFileAccess.readOnly_read path).bind fun _ => .pure _

/-- The direction is that of the input. -/
theorem valueAt_checkPaths_eq_ok_iff {files : σ} {input output : String} {direction : Direction} :
    valueAt files (checkPaths input output) = .ok direction ↔
      Direction.ofPath? input = some direction ∧ (Direction.ofPath? output).isSome ∧
        valueAt files (FileAccess.isFile input) = true := by
  unfold checkPaths
  split
  · rename_i direction' direction'' hinput houtput
    rw [(LawfulFileAccess.readOnly_isFile input).valueAt_bind, hinput, houtput]
    cases valueAt files (FileAccess.isFile input) <;> simp
  · rename_i hpaths
    refine ⟨nofun, fun ⟨hinput, houtput, _⟩ => ?_⟩
    obtain ⟨direction', houtput⟩ := Option.isSome_iff_exists.1 houtput
    exact (hpaths _ _ hinput houtput).elim

/-! ## The tables of a command -/

/-- The slot of a table once the document at a path, if there is one, is installed. -/
def slotAt (kind : TableKind ε α) (refused : String → ε → SetupError) (files : σ)
    (path : Option String) (slot : SetOnce α) : Except SetupError (SetOnce α) :=
  match path with
  | none => .ok slot
  | some path =>
    match valueAt files (readDocument path) with
    | .error error => .error error
    | .ok document => (slot.install kind document).mapError (refused path)

section Slot

variable {kind : TableKind ε α} {refused : String → ε → SetupError} {files : σ}
  {path : Option String} {slot slot' : SetOnce α}

theorem slotAt_some {location : String} {document : Text}
    (h : valueAt files (readText location) = .ok document) :
    slotAt kind refused files (some location) slot =
      (slot.install kind document).mapError (refused location) := by
  simp only [slotAt, readDocument, (readOnly_readText location).valueAt_bind, valueAt_pure, h]
  rfl

theorem slotAt_of_installsAt {document : Text} (h : InstallsAt kind files path slot document) :
    slotAt kind refused files path slot = .ok { slot with custom := some document } := by
  obtain ⟨⟨location, rfl, hread⟩, hvalid, hfirst⟩ := h
  rw [slotAt_some hread, SetOnce.install_eq_ok_iff.2 ⟨hvalid, hfirst, rfl⟩]
  rfl

/-- A slot is as before without a path, or with a new document. -/
theorem slotAt_eq_ok_iff :
    slotAt kind refused files path slot = .ok slot' ↔
      path = none ∧ slot' = slot ∨
        ∃ document, InstallsAt kind files path slot document ∧
          slot' = { slot with custom := some document } := by
  constructor
  · intro h
    cases path with
    | none => exact .inl ⟨rfl, (Except.ok.inj h).symm⟩
    | some location =>
      cases hread : valueAt files (readText location) with
      | error error =>
        simp only [slotAt, readDocument, (readOnly_readText location).valueAt_bind, valueAt_pure,
          hread] at h
        cases h
      | ok document =>
        rw [slotAt_some hread] at h
        obtain ⟨hvalid, hfirst, hslot⟩ := SetOnce.install_eq_ok_iff.1 (eq_ok_of_mapError_eq_ok h)
        exact .inr ⟨document, ⟨⟨location, rfl, hread⟩, hvalid, hfirst⟩, hslot⟩
  · rintro (⟨rfl, rfl⟩ | ⟨document, h, rfl⟩)
    · rfl
    · exact slotAt_of_installsAt h

end Slot

/-- To install a document among the tables is to install it in the slot of its table. -/
theorem valueAt_installDocument {kind : TableKind ε α} {slot : SetOnce α} {tables : Tables}
    {install : Text → Except ε Tables} {replace : SetOnce α → Tables} (hslot : replace slot = tables)
    (hinstall : ∀ document, install document = (slot.install kind document).map replace)
    (refused : String → ε → SetupError) (files : σ) (path : Option String) :
    valueAt files (installDocument install refused path tables) =
      (slotAt kind refused files path slot).map replace := by
  cases path with
  | none => exact congrArg Except.ok hslot.symm
  | some path =>
    simp only [installDocument, slotAt, (readOnly_readDocument path).valueAt_bind]
    cases valueAt files (readDocument path) with
    | error error => rfl
    | ok document =>
      simp only [valueAt_pure, hinstall]
      cases slot.install kind document <;> rfl

section InstallTables

variable {files : σ} {flags : Flags} {tables : Tables}

theorem valueAt_installTables_of_names_error {error : SetupError}
    (h : slotAt NameTable.kind .names files flags.names tables.names = .error error) :
    valueAt files (installTables flags tables) = (some error, tables) := by
  unfold installTables
  rw [(readOnly_installDocument _ _ flags.names tables).valueAt_bind,
    valueAt_installDocument rfl (Tables.installNames_eq tables), h]
  rfl

/-- Once the name table is installed, what is left to do depends on the unit table. -/
theorem valueAt_installTables_of_names_ok {names : SetOnce Lexicon}
    (h : slotAt NameTable.kind .names files flags.names tables.names = .ok names) :
    valueAt files (installTables flags tables) =
      match slotAt UnitTable.kind .units files flags.translit tables.units with
      | .error error => (some error, { tables with names })
      | .ok units => (none, ⟨names, units⟩) := by
  unfold installTables
  rw [(readOnly_installDocument _ _ flags.names tables).valueAt_bind,
    valueAt_installDocument rfl (Tables.installNames_eq tables), h]
  simp only [Except.map, (readOnly_installDocument _ _ flags.translit _).valueAt_bind]
  rw [valueAt_installDocument rfl (Tables.installUnits_eq { tables with names })]
  cases slotAt UnitTable.kind .units files flags.translit tables.units with
  | error error => rfl
  | ok units => rfl

theorem valueAt_installTables_eq_iff {after : Tables} :
    valueAt files (installTables flags tables) = (none, after) ↔
      slotAt NameTable.kind .names files flags.names tables.names = .ok after.names ∧
        slotAt UnitTable.kind .units files flags.translit tables.units = .ok after.units := by
  cases hnames : slotAt NameTable.kind .names files flags.names tables.names with
  | error error => simp [valueAt_installTables_of_names_error hnames]
  | ok names =>
    rw [valueAt_installTables_of_names_ok hnames]
    cases slotAt UnitTable.kind .units files flags.translit tables.units with
    | error error => simp
    | ok units =>
      obtain ⟨names', units'⟩ := after
      simp

end InstallTables

/-- A slot that can be set up can be read, and gives the table that the flag stands for. -/
theorem exists_read_of_slotAt {kind : TableKind ε α} {refused : String → ε → SetupError} {files : σ}
    {path : Option String} {slot : SetOnce α} (h : slotAt kind refused files path {} = .ok slot) :
    ∃ table, slot.read kind = .ok (table, { slot with inUse := some table }) ∧
      TableAt kind files path table := by
  obtain ⟨rfl, rfl⟩ | ⟨document, ⟨⟨path, rfl, hread⟩, ⟨table, hparse⟩, -⟩, rfl⟩ :=
    slotAt_eq_ok_iff.1 h
  · exact ⟨kind.default, SetOnce.read_initial, rfl⟩
  · exact ⟨table, SetOnce.read_of_settled (.inr ⟨rfl, document, rfl, hparse⟩), document, hread,
      hparse⟩

/-- The slot of a table that a flag stands for can be set up. -/
theorem exists_slotAt_of_tableAt {kind : TableKind ε α} (refused : String → ε → SetupError)
    {files : σ} {path : Option String} {table : α} (h : TableAt kind files path table) :
    ∃ slot, slotAt kind refused files path {} = .ok slot := by
  cases path with
  | none => exact ⟨_, rfl⟩
  | some path =>
    obtain ⟨document, hread, hparse⟩ := h
    exact ⟨_, slotAt_of_installsAt ⟨⟨path, rfl, hread⟩, ⟨table, hparse⟩, rfl⟩⟩

/-! ## The parts of a command -/

theorem reads_setUp (files : σ) (flags : Flags) :
    Reads (setUp flags) files fun setup =>
      valueAt files (installTables flags {}) = (none, setup.1) ∧
        valueAt files (resolveOptions flags) = .ok setup.2 := by
  refine .bind_lift (readOnly_installTables flags {}) ?_
  obtain ⟨error?, tables⟩ := valueAt files (installTables flags {})
  cases error? with
  | some error => exact (Reads.failed _ _).congr fun setup => by simp
  | none =>
    refine .bind_lift (readOnly_resolveOptions flags) ?_
    refine ((Reads.orStop _ _ _).bind fun options _ => Reads.pure (tables, options)).congr ?_
    rintro ⟨tables', options'⟩
    simp only [Prod.mk.injEq, true_and]
    constructor
    · rintro ⟨options, hoptions, rfl, rfl⟩
      exact ⟨rfl, hoptions⟩
    · rintro ⟨rfl, hoptions⟩
      exact ⟨options', hoptions, rfl, rfl⟩

theorem reads_readScript (files : σ) (path : String) (charset : Charset) :
    Reads (readScript path charset) files fun source =>
      ∃ bytes, valueAt files (FileAccess.read path) = .ok bytes ∧
        charset.decode bytes = .ok source :=
  .bind_lift (LawfulFileAccess.readOnly_read path)
    ((Reads.orStop _ _ _).bind fun _ _ => Reads.orStop _ _ _)

theorem exists_installTables_of_tableAt {files : σ} {flags : Flags} {names : Lexicon}
    {units : UnitTable} (hnames : TableAt NameTable.kind files flags.names names)
    (hunits : TableAt UnitTable.kind files flags.translit units) :
    ∃ tables, valueAt files (installTables flags {}) = (none, tables) := by
  obtain ⟨nameSlot, hnames⟩ := exists_slotAt_of_tableAt .names hnames
  obtain ⟨unitSlot, hunits⟩ := exists_slotAt_of_tableAt .units hunits
  exact ⟨⟨nameSlot, unitSlot⟩, valueAt_installTables_eq_iff.2 ⟨hnames, hunits⟩⟩

/-- The tables that a command has installed can be read. -/
theorem exists_read_of_installTables {files : σ} {flags : Flags} {tables : Tables}
    (h : valueAt files (installTables flags {}) = (none, tables)) :
    ∃ names units, TableAt NameTable.kind files flags.names names ∧
      TableAt UnitTable.kind files flags.translit units ∧
      tables.readNames =
        .ok (names, { tables with names := { tables.names with inUse := some names } }) ∧
      tables.units.read UnitTable.kind =
        .ok (units, { tables.units with inUse := some units }) := by
  obtain ⟨hnames, hunits⟩ := valueAt_installTables_eq_iff.1 h
  obtain ⟨names, hreadNames, hnames⟩ := exists_read_of_slotAt hnames
  obtain ⟨units, hreadUnits, hunits⟩ := exists_read_of_slotAt hunits
  refine ⟨names, units, hnames, hunits, ?_, hreadUnits⟩
  unfold Tables.readNames
  rw [hreadNames]
  rfl

/-- A script is compiled with the tables that the flags stand for. -/
theorem reads_compileScript [RegexCompiler] {files : σ} {flags : Flags} {tables : Tables}
    (h : valueAt files (installTables flags {}) = (none, tables)) (options : Options)
    (direction : Direction) (source : Text) :
    Reads (compileScript tables options direction source) files fun result =>
      ∃ names units, TableAt NameTable.kind files flags.names names ∧
        TableAt UnitTable.kind files flags.translit units ∧
        result = compile units names options (valueAt files (readMapFile options)) direction
          source := by
  obtain ⟨names, units, hnames, hunits, hreadNames, hreadUnits⟩ := exists_read_of_installTables h
  have hpart : Reads (compileScript tables options direction source) files
      (· = compile units names options (valueAt files (readMapFile options)) direction source) := by
    unfold compileScript
    rw [hreadNames, orCrash_ok, pure_bind]
    refine .bind_lift (readOnly_readMapFile options) ?_
    unfold Tables.compile Tables.readUnits
    rw [hreadUnits]
    exact Reads.pure _
  refine hpart.congr fun result => ⟨fun hresult => ⟨names, units, hnames, hunits, hresult⟩, ?_⟩
  rintro ⟨names', units', hnames', hunits', hresult⟩
  rw [hresult, hnames.eq hnames', hunits.eq hunits']

/-- The script at `input` compiles into these bytes for the file at `output`, with the tables and the
options of the flags. All of it is read from `files`, also where the two paths are the same. -/
inductive CompilesTo [RegexCompiler] (files : σ) (input output : String) (flags : Flags) :
    Compiled → Bytes → Prop
  | intro {names : Lexicon} {units : UnitTable} {options : Options} {direction : Direction}
      {bytes encoded : Bytes} {source : Text} {compiled : Compiled}
      (hnames : TableAt NameTable.kind files flags.names names)
      (hunits : TableAt UnitTable.kind files flags.translit units)
      (hoptions : valueAt files (resolveOptions flags) = .ok options)
      (hinput : Direction.ofPath? input = some direction)
      (houtput : (Direction.ofPath? output).isSome)
      (hfile : valueAt files (FileAccess.isFile input) = true)
      (hread : valueAt files (FileAccess.read input) = .ok bytes)
      (hdecode : options.charset.decode bytes = .ok source)
      (hcompile : compile units names options (valueAt files (readMapFile options)) direction source =
        .ok compiled)
      (hencode : options.charset.encode compiled.text = .ok encoded) :
      CompilesTo files input output flags compiled encoded

theorem reads_compileToBytes [RegexCompiler] (files : σ) (input output : String) (flags : Flags) :
    Reads (compileToBytes input output flags) files fun result =>
      ∃ compiled, CompilesTo files input output flags compiled result.2 ∧
        result.1 = proceedText compiled.warnings := by
  refine ((reads_setUp files flags).bind fun setup hsetup =>
    .bind_lift (readOnly_checkPaths input output) <|
    (Reads.orStop _ _ _).bind fun direction _ =>
    (reads_readScript files input setup.2.charset).bind fun source _ =>
    (reads_compileScript hsetup.1 setup.2 direction source).bind fun result _ =>
    (Reads.orStop _ _ _).bind fun compiled _ =>
    (Reads.orStop _ _ _).bind fun bytes _ => Reads.pure _).congr ?_
  rintro ⟨warnings, encoded⟩
  constructor
  · rintro ⟨⟨tables, options⟩, ⟨-, hoptions⟩, direction, hpaths, source, ⟨bytes, hread, hdecode⟩,
      _, ⟨names, units, hnames, hunits, rfl⟩, compiled, hcompile, _, hencode, hresult⟩
    cases hresult
    obtain ⟨hinput, houtput, hfile⟩ := valueAt_checkPaths_eq_ok_iff.1 hpaths
    exact ⟨compiled, .intro hnames hunits hoptions hinput houtput hfile hread hdecode hcompile hencode,
      rfl⟩
  · rintro ⟨compiled, @⟨names, units, options, direction, bytes, _, source, _, hnames, hunits, hoptions,
      hinput, houtput, hfile, hread, hdecode, hcompile, hencode⟩, rfl⟩
    obtain ⟨tables, htables⟩ := exists_installTables_of_tableAt hnames hunits
    have hpaths := valueAt_checkPaths_eq_ok_iff.2 ⟨hinput, houtput, hfile⟩
    exact ⟨(tables, options), ⟨htables, hoptions⟩, direction, hpaths, source, ⟨bytes, hread, hdecode⟩,
      _, ⟨names, units, hnames, hunits, rfl⟩, compiled, hcompile, encoded, hencode, rfl⟩

/-! ## Commands -/

/-- The output is written, or else nothing changes. -/
theorem writeOutput_cases (before : σ) (output warnings : String) (bytes : Bytes) :
    (∃ outcome after, runOn before (writeOutput output warnings bytes) = (.ok outcome, after) ∧
      outcome.status = 0 ∧ Written before output bytes after) ∨
    ∃ outcome error, runOn before (writeOutput output warnings bytes) = (.error outcome, before) ∧
      outcome.status = 1 ∧ valueAt before (FileAccess.write output bytes) = .error error := by
  unfold writeOutput
  rw [run_bind_lift]
  cases hvalue : valueAt before (FileAccess.write output bytes : StateM σ _) with
  | ok written => exact .inl ⟨_, _, rfl, rfl, LawfulFileAccess.write_ok (Prod.ext hvalue rfl)⟩
  | error error =>
    have hafter : ((FileAccess.write output bytes : StateM σ _).run before).2 = before :=
      LawfulFileAccess.write_error (Prod.ext hvalue rfl)
    rw [hafter]
    exact .inr ⟨_, error, rfl, rfl, rfl⟩

/-- What a command line does to the files. To compile a script is to write its bytes; if there are
none, or if they cannot be written, nothing changes. Neither does it in any other command. -/
def Effect [RegexCompiler] (before : σ) : Outcome × σ → Option Command → Prop
  | (outcome, after), some (.compile input output flags) =>
    (outcome.status = 0 ∧ ∃ compiled bytes,
      CompilesTo before input output flags compiled bytes ∧ Written before output bytes after) ∨
    (outcome.status = 1 ∧ after = before ∧ ∀ compiled bytes,
      CompilesTo before input output flags compiled bytes →
        ∃ error, valueAt before (FileAccess.write output bytes) = .error error)
  | (_, after), _ => after = before

theorem effect_compileFile [RegexCompiler] (before : σ) (input output : String) (flags : Flags) :
    Effect before ((runOn before (compileFile input output flags)).map .ofResult id)
      (some (.compile input output flags)) := by
  cases reads_compileToBytes before input output flags with
  | @fails outcome hrun hstatus hnone =>
    have hfile : runOn before (compileFile input output flags) = (.error outcome, before) :=
      run_bind_of_error hrun
    rw [hfile]
    refine .inr ⟨hstatus, rfl, fun compiled bytes hbytes => ?_⟩
    exact (hnone (_, bytes) ⟨compiled, hbytes, rfl⟩).elim
  | @gives result hrun hiff =>
    have hfile : runOn before (compileFile input output flags) =
        runOn before (writeOutput output result.1 result.2) := run_bind_of_ok hrun
    rw [hfile]
    obtain ⟨outcome, after, hwrite, hstatus, hwritten⟩ | ⟨outcome, error, hwrite, hstatus, herror⟩ :=
      writeOutput_cases before output result.1 result.2
    · rw [hwrite]
      obtain ⟨compiled, hbytes, -⟩ := (hiff result).2 rfl
      exact .inl ⟨hstatus, compiled, result.2, hbytes, hwritten⟩
    · rw [hwrite]
      refine .inr ⟨hstatus, rfl, fun compiled bytes hbytes => ⟨error, ?_⟩⟩
      have hresult := (hiff (_, bytes)).1 ⟨compiled, hbytes, rfl⟩
      rw [← herror, ← hresult]

theorem exists_reads_showMap [RegexCompiler] (files : σ) (input : String) (json : Bool)
    (flags : Flags) : ∃ Gives, Reads (showMap input json flags) files Gives := by
  unfold showMap
  cases Direction.ofPath? input with
  | none => exact ⟨_, (reads_setUp files flags).bind fun _ _ => Reads.failed _ _⟩
  | some direction =>
    cases json <;>
      exact ⟨_, (reads_setUp files flags).bind fun setup hsetup =>
        (reads_readScript files input setup.2.charset).bind fun source _ =>
        (reads_compileScript hsetup.1 setup.2 direction source).bind fun _ _ =>
        (Reads.orStop _ _ _).bind fun _ _ => Reads.pure _⟩

theorem exists_reads_validateFile (files : σ) (kind : DocumentKind) (path : String) :
    ∃ Gives, Reads (validateFile kind path) files Gives :=
  ⟨_, .bind_lift (readOnly_readText path) <|
    (Reads.orStop _ _ _).bind fun _ _ => (Reads.orStop _ _ _).bind fun _ _ => Reads.pure _⟩

theorem effect_perform [RegexCompiler] (before : σ) (command : Command) :
    Effect before ((runOn before (perform command)).map .ofResult id) (some command) := by
  cases command with
  | version => rfl
  | help => rfl
  | compile input output flags => exact effect_compileFile before input output flags
  | map input json flags =>
    obtain ⟨_, h⟩ := exists_reads_showMap before input json flags
    exact h.run_snd
  | exportDefault kind => rfl
  | validate kind file =>
    obtain ⟨_, h⟩ := exists_reads_validateFile before kind file
    exact h.run_snd

/-- A command line changes at most the output of a script that it compiles. -/
theorem effect_run [RegexCompiler] (arguments : List String) (before : σ) :
    Effect before ((run arguments : StateM σ Outcome).run before) (Command.parse? arguments) := by
  unfold run
  cases Command.parse? arguments with
  | none => rfl
  | some command => exact effect_perform before command

/-- A script, with tables and settings to compile it. -/
def sampleFiles : FileTree :=
  [("a.blya", "x"), ("names", "[names]\nx = \"y\"\n"), ("units", "[mappings]\nx = \"y\"\n"),
    ("settings", "[compile]\ncharset = \"UTF-8\"\n[translit]\ndirective = \"t\"\n")].foldl
    (fun files (path, text) => files.add path (.file (Utf8.encode text.toList))) {}

/-- A script may be compiled into its own file. -/
theorem effect_run_in_place :
    let arguments := ["compile", "a.blya", "a.blya", "--names", "names", "--translit", "units",
      "--config", "settings"]
    let flags := { names := some "names", translit := some "units", config := some "settings" }
    let (outcome, after) := (run arguments : StateM FileTree Outcome).run sampleFiles
    outcome.status = 0 ∧ after.read "a.blya" = .ok (Utf8.encode ['y']) ∧
      ∃ compiled bytes, CompilesTo sampleFiles "a.blya" "a.blya" flags compiled bytes ∧
        Written sampleFiles "a.blya" bytes after := by
  intro arguments flags
  have hcommand : Command.parse? arguments = some (.compile "a.blya" "a.blya" flags) := by
    decide +kernel
  have hstatus : ((run arguments : StateM FileTree Outcome).run sampleFiles).1.status = 0 := by
    decide +kernel
  have hread : ((run arguments : StateM FileTree Outcome).run sampleFiles).2.read "a.blya" =
      .ok (Utf8.encode ['y']) := by
    decide +kernel
  have heffect := effect_run arguments sampleFiles
  rw [hcommand] at heffect
  obtain ⟨-, hcompiles⟩ | ⟨hfailed, -⟩ := heffect
  · exact ⟨hstatus, hread, hcompiles⟩
  · cases hstatus.symm.trans hfailed

end Wordbridge.CommandLine
