import Wordbridge.Proofs.CommandLine

/-!
# Installing two tables

The name table is installed first. If the unit table then cannot be installed,
the name table stays: nothing is taken back. So an installation that fails
leaves both tables as they were, or it leaves a new document for the name table
and nothing else (`after_of_installTables_error`). In the first case a corrected
call does what it would have done at once. In the second one it is refused as
long as it names a name table, and does the rest without (`LeavesBehind`).
-/

namespace Wordbridge.CommandLine

variable {σ ε α : Type} [FileAccess (StateM σ)]

/-- What is left of an installation that failed. -/
structure LeavesBehind (files : σ) (flags : Flags) (tables after : Tables) : Prop where
  units_eq : after.units = tables.units
  /-- If no name table is installed, then both tables are as before. -/
  unchanged : (∀ document, ¬ InstallsAt NameTable.kind files flags.names tables.names document) →
    after = tables
  /-- A name table that is installed stays, and there is no other change. -/
  partly : ∀ document, InstallsAt NameTable.kind files flags.names tables.names document →
    after = { tables with names := { tables.names with custom := some document } }
  /-- A corrected call does what it would have done at once. If there is a new name table, it
  installs the rest, and must not name a name table again. -/
  retry : ∀ (files' : σ) (flags' : Flags) (tables' : Tables),
    valueAt files' (installTables flags' tables) = (none, tables') →
      valueAt files' (installTables flags' after) = (none, tables') ∨
        after ≠ tables ∧
          valueAt files' (installTables { flags' with names := none } after) =
            (none, { tables' with names := after.names })
  /-- If it does, it is refused. -/
  refused : after ≠ tables → ∀ (files' : σ) (flags' : Flags) (tables' : Tables) (path : String),
    valueAt files' (installTables flags' tables) = (none, tables') → flags'.names = some path →
      valueAt files' (installTables flags' after) = (some (.names path .alreadyInstalled), after)

variable [FileLayout σ] [LawfulFileAccess σ]

section Failure

variable {files : σ} {flags : Flags} {tables after : Tables} {error : SetupError}

/-- A slot takes one document: where the first can be installed, a second one is refused. -/
theorem slotAt_of_installed {kind : TableKind ε α} {refused : String → ε → SetupError}
    {location : String} {slot slot' installed : SetOnce α} {other : Text}
    (h : slotAt kind refused files (some location) slot = .ok slot')
    (hcustom : installed.custom = some other) :
    slotAt kind refused files (some location) installed =
      .error (refused location kind.alreadyInstalled) := by
  obtain ⟨hnone, -⟩ | ⟨document, ⟨⟨location', hlocation, hread⟩, ⟨table, hparse⟩, -⟩, -⟩ :=
    slotAt_eq_ok_iff.1 h
  · cases hnone
  · cases hlocation
    rw [slotAt_some hread, SetOnce.install_of_installed hparse hcustom]
    rfl

/-- The unit table fails last, so that it is never left behind. -/
theorem after_of_installTables_error
    (h : valueAt files (installTables flags tables) = (some error, after)) :
    (∀ document, ¬ InstallsAt NameTable.kind files flags.names tables.names document) ∧
        after = tables ∨
      ∃ document, InstallsAt NameTable.kind files flags.names tables.names document ∧
        after = { tables with names := { tables.names with custom := some document } } := by
  cases hnames : slotAt NameTable.kind .names files flags.names tables.names with
  | error error' =>
    rw [valueAt_installTables_of_names_error hnames] at h
    refine .inl ⟨fun document hinstalls => ?_, (Prod.mk.inj h).2.symm⟩
    cases hnames.symm.trans (slotAt_of_installsAt hinstalls)
  | ok names =>
    rw [valueAt_installTables_of_names_ok hnames] at h
    cases hunits : slotAt UnitTable.kind .units files flags.translit tables.units with
    | ok units =>
      rw [hunits] at h
      cases (Prod.mk.inj h).1
    | error error' =>
      rw [hunits] at h
      have hafter : { tables with names } = after := (Prod.mk.inj h).2
      obtain ⟨hnone, rfl⟩ | ⟨document, hinstalls, rfl⟩ := slotAt_eq_ok_iff.1 hnames
      · refine .inl ⟨fun document hinstalls => ?_, hafter.symm⟩
        obtain ⟨⟨location, hsome, -⟩, -, -⟩ := hinstalls
        cases hnone.symm.trans hsome
      · exact .inr ⟨document, hinstalls, hafter.symm⟩

/-- An installation that fails leaves both tables as they were, unless it had installed the name
table. That one then stays, and a corrected call can install the unit table only. -/
theorem leavesBehind_of_installTables_error
    (h : valueAt files (installTables flags tables) = (some error, after)) :
    LeavesBehind files flags tables after := by
  obtain ⟨hnone, rfl⟩ | ⟨document, hinstalls, rfl⟩ := after_of_installTables_error h
  · exact {
      units_eq := rfl
      unchanged := fun _ => rfl
      partly := fun document hinstalls => absurd hinstalls (hnone document)
      retry := fun _ _ _ hok => .inl hok
      refused := fun hne => absurd rfl hne }
  · have hne : ({ tables with names := { tables.names with custom := some document } } : Tables) ≠
        tables := fun heq => by
      have hcustom := congrArg (fun tables => tables.names.custom) heq
      rw [hinstalls.first] at hcustom
      cases hcustom
    exact {
      units_eq := rfl
      unchanged := fun hnone => absurd hinstalls (hnone document)
      partly := fun document' hinstalls' => by rw [hinstalls.eq hinstalls']
      retry := fun files' flags' tables' hok => by
        obtain ⟨-, hunits⟩ := valueAt_installTables_eq_iff.1 hok
        exact .inr ⟨hne, valueAt_installTables_eq_iff.2 ⟨rfl, hunits⟩⟩
      refused := fun _ files' flags' tables' path hok hpath => by
        obtain ⟨hnames, -⟩ := valueAt_installTables_eq_iff.1 hok
        rw [hpath] at hnames
        refine valueAt_installTables_of_names_error ?_
        rw [hpath]
        exact slotAt_of_installed hnames rfl }

end Failure

/-- Files with a name table, and a document in which there are no units. -/
def filesWithoutUnits : FileTree :=
  [("names", "[names]\nx = \"y\"\n"), ("units", "[mappings]\n")].foldl
    (fun files (path, text) => files.add path (.file (Utf8.encode text.toList))) {}

/-- The same files, with the document corrected. -/
def filesWithUnits : FileTree :=
  filesWithoutUnits.add "units" (.file (Utf8.encode "[mappings]\nx = \"y\"\n".toList))

/-- The name table is installed although the call fails, so that the same call is refused once the
document is corrected. -/
theorem installTables_not_all_or_nothing :
    let flags : Flags := { names := some "names", translit := some "units" }
    let failed := valueAt filesWithoutUnits (installTables flags {})
    failed.1 = some (.units "units" .empty) ∧ failed.2 ≠ {} ∧
      (valueAt filesWithUnits (installTables flags {})).1 = none ∧
      (valueAt filesWithUnits (installTables flags failed.2)).1 =
        some (.names "names" .alreadyInstalled) := by
  intro flags failed
  have hcustom : failed.2.names.custom ≠ none := by decide +kernel
  refine ⟨by decide +kernel, fun heq => ?_, by decide +kernel, by decide +kernel⟩
  exact hcustom (congrArg (fun tables => tables.names.custom) heq)

/-- The call that is refused installs the unit table if it does not name a name table. -/
theorem leavesBehind_of_filesWithoutUnits :
    let flags : Flags := { names := some "names", translit := some "units" }
    ∃ after installed,
      valueAt filesWithoutUnits (installTables flags {}) =
        (some (.units "units" .empty), after) ∧
      LeavesBehind filesWithoutUnits flags {} after ∧ after ≠ {} ∧
      valueAt filesWithUnits (installTables flags {}) = (none, installed) ∧
      valueAt filesWithUnits (installTables { flags with names := none } after) =
        (none, { installed with names := after.names }) ∧
      valueAt filesWithUnits (installTables flags after) =
        (some (.names "names" .alreadyInstalled), after) := by
  intro flags
  have hfails : (valueAt filesWithoutUnits (installTables flags {})).1 =
      some (.units "units" .empty) := by
    decide +kernel
  have hcustom : (valueAt filesWithoutUnits (installTables flags {})).2.names.custom ≠ none := by
    decide +kernel
  have hok : (valueAt filesWithUnits (installTables flags {})).1 = none := by decide +kernel
  have hafter := leavesBehind_of_installTables_error (Prod.ext hfails rfl)
  have hne : (valueAt filesWithoutUnits (installTables flags {})).2 ≠ {} := fun heq =>
    hcustom (congrArg (fun tables => tables.names.custom) heq)
  have hrefused := hafter.refused hne _ _ _ "names" (Prod.ext hok rfl) rfl
  obtain hretry | ⟨-, hretry⟩ := hafter.retry _ _ _ (Prod.ext hok rfl)
  · cases (Prod.mk.inj (hretry.symm.trans hrefused)).1
  · exact ⟨_, _, Prod.ext hfails rfl, hafter, hne, Prod.ext hok rfl, hretry, hrefused⟩

end Wordbridge.CommandLine
