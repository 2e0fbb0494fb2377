import Mathlib.Data.Nat.Find
import Wordbridge.Session

/-!
# Replacing a table once

A process may replace a table once, and from its first use on a table stays the
same. Both tables of a process work in this way, and a `Channel` says how the
calls of a session reach one of them, so that each fact is proved once:

* `Channel.step_cases`: what a call can do to a table;
* `SetOnce.Settled`: a table that a document has been installed for, or that has
  been used, is the same in all later uses;
* `Channel.ReplacedOnce`: what a process sees of its tables in any row of calls.

An installation takes effect only if it comes before the first use of the table
(`Channel.TakesEffect`). It is accepted afterwards as well, and then nothing
comes of it.
-/

namespace Wordbridge

/-! ## A table that can be replaced -/

namespace SetOnce

variable {ε α : Type} {kind : TableKind ε α} {slot slot' : SetOnce α} {document : Text} {table : α}

/-- A document is installed if it is valid and the first one. -/
theorem install_eq_ok_iff :
    slot.install kind document = .ok slot' ↔
      (∃ table, kind.parse document = .ok table) ∧ slot.custom = none ∧
        slot' = { slot with custom := some document } := by
  unfold install
  cases hp : kind.parse document with
  | error error =>
    refine ⟨fun h => ?_, fun ⟨⟨_, h⟩, _⟩ => ?_⟩
    · cases h
    · cases h
  | ok table =>
    cases hc : slot.custom with
    | some other =>
      refine ⟨fun h => ?_, fun ⟨_, h, _⟩ => ?_⟩
      · cases h
      · cases h
    | none =>
      constructor
      · intro h
        exact ⟨⟨table, rfl⟩, rfl, (Except.ok.inj h).symm⟩
      · rintro ⟨-, -, rfl⟩
        rfl

/-- A document that is not valid is refused on that account, also where another one is installed. -/
theorem install_of_invalid {error : ε} (h : kind.parse document = .error error) :
    slot.install kind document = .error error := by
  unfold install
  rw [h]
  rfl

theorem install_of_installed {other : Text} (h : kind.parse document = .ok table)
    (hc : slot.custom = some other) : slot.install kind document = .error kind.alreadyInstalled := by
  unfold install
  rw [h, hc]
  rfl

/-- Reading gives this table, now and after whatever else happens to the slot. -/
def Settled (kind : TableKind ε α) (slot : SetOnce α) (table : α) : Prop :=
  slot.inUse = some table ∨
    slot.inUse = none ∧ ∃ document, slot.custom = some document ∧ kind.parse document = .ok table

/-- The document that replaces the default is valid. -/
def Valid (kind : TableKind ε α) (slot : SetOnce α) : Prop :=
  ∀ document, slot.custom = some document → ∃ table, kind.parse document = .ok table

/-- Reading puts to use what is read. -/
theorem read_of_settled (h : slot.Settled kind table) :
    slot.read kind = .ok (table, { slot with inUse := some table }) := by
  obtain ⟨custom, inUse⟩ := slot
  rcases h with h | ⟨hu, document, hc, hp⟩
  · subst h
    rfl
  · subst hu hc
    change (kind.parse document >>= fun table => _) = _
    rw [hp]
    rfl

theorem read_initial :
    SetOnce.read kind {} = .ok (kind.default, { inUse := some kind.default }) := by
  change (kind.parse kind.defaultText >>= fun table => _) = _
  rw [kind.parse_defaultText]
  rfl

/-- The table of a valid document, or else the default, can be read. -/
theorem exists_read_eq_ok (h : slot.Valid kind) :
    ∃ table, slot.read kind = .ok (table, { slot with inUse := some table }) := by
  obtain ⟨custom, inUse⟩ := slot
  cases inUse with
  | some table => exact ⟨table, rfl⟩
  | none =>
    cases custom with
    | none => exact ⟨_, read_initial⟩
    | some document =>
      obtain ⟨table, hp⟩ := h document rfl
      exact ⟨table, read_of_settled (.inr ⟨rfl, document, rfl, hp⟩)⟩

end SetOnce

/-! ## The calls that reach a table -/

/-- How the calls of a session reach one of its tables. -/
structure Channel [RegexCompiler] (ε α : Type) where
  kind : TableKind ε α
  slot : Tables → SetOnce α
  /-- The tables with another slot in the place of this one. -/
  replace : Tables → SetOnce α → Tables
  /-- The document that a call installs. -/
  document? : Call → Option Text
  /-- What a call that uses the table makes of it. -/
  answer? : Call → Option (α → Reply)
  /-- The answer to a document that is not installed. -/
  refused : ε → Reply
  slot_initial : slot {} = {}
  slot_replace (tables : Tables) (slot' : SetOnce α) : slot (replace tables slot') = slot'
  refused_ne_installed (error : ε) : refused error ≠ .installed
  /-- No call installs a document and uses the table. -/
  answer?_eq_none {call : Call} {document : Text} :
    document? call = some document → answer? call = none
  step_install (tables : Tables) {call : Call} {document : Text} :
    document? call = some document → tables.step call =
      tables.afterInstall refused (((slot tables).install kind document).map (replace tables))
  step_use (tables : Tables) {call : Call} {answer : α → Reply} :
    answer? call = some answer → tables.step call =
      tables.afterUse answer (((slot tables).read kind).map (Prod.map id (replace tables)))
  /-- The other calls leave the table alone. -/
  slot_step (tables : Tables) {call : Call} :
    document? call = none → answer? call = none → slot (tables.step call).2 = slot tables

namespace Call

def namesDocument? : Call → Option Text
  | .installNames document => some document
  | _ => none

def unitsDocument? : Call → Option Text
  | .installUnits document => some document
  | _ => none

def namesAnswer? : Call → Option (Lexicon → Reply)
  | .readNames => some .names
  | _ => none

/-- Directives and scripts are made with the unit table. -/
def unitsAnswer? [RegexCompiler] : Call → Option (UnitTable → Reply)
  | .readUnits => some .units
  | .transliterator name => some fun units => .transliterator (Transliterator.ofName name units)
  | .compile builtin options map direction source => some fun units =>
    .compiled (Wordbridge.compile units builtin options map direction source)
  | _ => none

/-- A call installs a document for one of the tables, or uses one of them. -/
theorem reaches_table [RegexCompiler] (call : Call) :
    (∃ document, call.namesDocument? = some document) ∨
      (∃ answer, call.namesAnswer? = some answer) ∨
      (∃ document, call.unitsDocument? = some document) ∨
      ∃ answer, call.unitsAnswer? = some answer := by
  cases call with
  | installNames document => exact .inl ⟨document, rfl⟩
  | readNames => exact .inr (.inl ⟨_, rfl⟩)
  | installUnits document => exact .inr (.inr (.inl ⟨document, rfl⟩))
  | readUnits => exact .inr (.inr (.inr ⟨_, rfl⟩))
  | transliterator name => exact .inr (.inr (.inr ⟨_, rfl⟩))
  | compile builtin options map direction source => exact .inr (.inr (.inr ⟨_, rfl⟩))

end Call

namespace Tables

theorem installNames_eq (tables : Tables) (document : Text) :
    tables.installNames document =
      (tables.names.install NameTable.kind document).map fun names => { tables with names } := by
  unfold installNames
  cases tables.names.install NameTable.kind document <;> rfl

theorem installUnits_eq (tables : Tables) (document : Text) :
    tables.installUnits document =
      (tables.units.install UnitTable.kind document).map fun units => { tables with units } := by
  unfold installUnits
  cases tables.units.install UnitTable.kind document <;> rfl

section Step

variable [RegexCompiler]

theorem step_of_namesDocument? (tables : Tables) {call : Call} {document : Text}
    (h : call.namesDocument? = some document) :
    tables.step call = tables.afterInstall .namesRefused
      ((tables.names.install NameTable.kind document).map fun names => { tables with names }) := by
  cases call <;> cases h
  rw [step, installNames_eq]

theorem step_of_unitsDocument? (tables : Tables) {call : Call} {document : Text}
    (h : call.unitsDocument? = some document) :
    tables.step call = tables.afterInstall .unitsRefused
      ((tables.units.install UnitTable.kind document).map fun units => { tables with units }) := by
  cases call <;> cases h
  rw [step, installUnits_eq]

theorem step_of_namesAnswer? (tables : Tables) {call : Call} {answer : Lexicon → Reply}
    (h : call.namesAnswer? = some answer) :
    tables.step call = tables.afterUse answer
      ((tables.names.read NameTable.kind).map (Prod.map id fun names => { tables with names })) := by
  cases call <;> cases h
  simp only [step, readNames]
  rcases tables.names.read NameTable.kind with error | ⟨lexicon, names⟩ <;> rfl

theorem step_of_unitsAnswer? (tables : Tables) {call : Call} {answer : UnitTable → Reply}
    (h : call.unitsAnswer? = some answer) :
    tables.step call = tables.afterUse answer
      ((tables.units.read UnitTable.kind).map (Prod.map id fun units => { tables with units })) := by
  cases call <;> cases h
  all_goals
    simp only [step, transliterator, compile, readUnits]
    rcases tables.units.read UnitTable.kind with error | ⟨table, units⟩ <;> rfl

end Step

end Tables

namespace Channel

/-- The calls on the name table. -/
def names [RegexCompiler] : Channel NameTable.Error Lexicon where
  kind := NameTable.kind
  slot := Tables.names
  replace tables names := { tables with names }
  document? := Call.namesDocument?
  answer? := Call.namesAnswer?
  refused := .namesRefused
  slot_initial := rfl
  slot_replace _ _ := rfl
  refused_ne_installed _ := nofun
  answer?_eq_none {call _} h := by
    cases call <;> cases h
    rfl
  step_install tables {_ _} h := tables.step_of_namesDocument? h
  step_use tables {_ _} h := tables.step_of_namesAnswer? h
  slot_step tables call hd ha := by
    rcases call.reaches_table with ⟨_, h⟩ | ⟨_, h⟩ | ⟨document, h⟩ | ⟨answer, h⟩
    · cases hd.symm.trans h
    · cases ha.symm.trans h
    · rw [tables.step_of_unitsDocument? h]
      cases tables.units.install UnitTable.kind document <;> rfl
    · rw [tables.step_of_unitsAnswer? h]
      cases tables.units.read UnitTable.kind <;> rfl

/-- The calls on the unit table. -/
def units [RegexCompiler] : Channel UnitTable.Error UnitTable where
  kind := UnitTable.kind
  slot := Tables.units
  replace tables units := { tables with units }
  document? := Call.unitsDocument?
  answer? := Call.unitsAnswer?
  refused := .unitsRefused
  slot_initial := rfl
  slot_replace _ _ := rfl
  refused_ne_installed _ := nofun
  answer?_eq_none {call _} h := by
    cases call <;> cases h
    rfl
  step_install tables {_ _} h := tables.step_of_unitsDocument? h
  step_use tables {_ _} h := tables.step_of_unitsAnswer? h
  slot_step tables call hd ha := by
    rcases call.reaches_table with ⟨document, h⟩ | ⟨answer, h⟩ | ⟨_, h⟩ | ⟨_, h⟩
    · rw [tables.step_of_namesDocument? h]
      cases tables.names.install NameTable.kind document <;> rfl
    · rw [tables.step_of_namesAnswer? h]
      cases tables.names.read NameTable.kind <;> rfl
    · cases hd.symm.trans h
    · cases ha.symm.trans h

/-! ## What a call does -/

section Step

variable [RegexCompiler] {ε α : Type} (channel : Channel ε α) {tables : Tables}

/-- What a call can do to a table whose documents are valid: nothing, install a document, or put the
table to use. -/
theorem step_cases (hv : (channel.slot tables).Valid channel.kind) (call : Call) :
    (channel.slot (tables.step call).2 = channel.slot tables ∧ channel.answer? call = none ∧
      ∀ document, channel.document? call = some document → (tables.step call).1 ≠ .installed) ∨
    (∃ document table, channel.document? call = some document ∧
      channel.kind.parse document = .ok table ∧ (channel.slot tables).custom = none ∧
      (tables.step call).1 = .installed ∧
      channel.slot (tables.step call).2 =
        { channel.slot tables with custom := some document }) ∨
    ∃ answer table, channel.answer? call = some answer ∧
      (channel.slot tables).read channel.kind =
        .ok (table, { channel.slot tables with inUse := some table }) ∧
      (tables.step call).1 = answer table ∧
      channel.slot (tables.step call).2 = { channel.slot tables with inUse := some table } := by
  cases hd : channel.document? call with
  | some document =>
    have ha := channel.answer?_eq_none hd
    rw [channel.step_install tables hd]
    cases hi : (channel.slot tables).install channel.kind document with
    | error error =>
      exact .inl ⟨rfl, ha, fun _ _ => channel.refused_ne_installed error⟩
    | ok slot' =>
      obtain ⟨⟨table, hp⟩, hc, rfl⟩ := SetOnce.install_eq_ok_iff.1 hi
      exact .inr (.inl ⟨document, table, rfl, hp, hc, rfl, channel.slot_replace _ _⟩)
  | none =>
    cases ha : channel.answer? call with
    | none =>
      exact .inl ⟨channel.slot_step tables hd ha, rfl, nofun⟩
    | some answer =>
      obtain ⟨table, hr⟩ := SetOnce.exists_read_eq_ok hv
      rw [channel.step_use tables ha, hr]
      exact .inr (.inr ⟨answer, table, rfl, rfl, rfl, channel.slot_replace _ _⟩)

theorem valid_step (call : Call) (hv : (channel.slot tables).Valid channel.kind) :
    (channel.slot (tables.step call).2).Valid channel.kind := by
  rcases channel.step_cases hv call with ⟨heq, -⟩ | ⟨document, table, -, hp, -, -, heq⟩ |
    ⟨answer, table, -, -, -, heq⟩
  · rw [heq]
    exact hv
  · rw [heq]
    intro document' hd
    cases hd
    exact ⟨table, hp⟩
  · rw [heq]
    exact hv

/-- The document that replaces the default stays. -/
theorem custom_step (call : Call) (hv : (channel.slot tables).Valid channel.kind) {document : Text}
    (h : (channel.slot tables).custom = some document) :
    (channel.slot (tables.step call).2).custom = some document := by
  rcases channel.step_cases hv call with ⟨heq, -⟩ | ⟨_, _, -, -, hnone, -⟩ | ⟨_, _, -, -, -, heq⟩
  · rw [heq, h]
  · rw [h] at hnone
    cases hnone
  · rw [heq]
    exact h

/-- A settled table stays settled: no call replaces it by another one. -/
theorem settled_step (call : Call) (hv : (channel.slot tables).Valid channel.kind) {table : α}
    (h : (channel.slot tables).Settled channel.kind table) :
    (channel.slot (tables.step call).2).Settled channel.kind table := by
  rcases channel.step_cases hv call with ⟨heq, -⟩ | ⟨document, _, -, -, hnone, -, heq⟩ |
    ⟨answer, table', -, hr, -, heq⟩
  · rw [heq]
    exact h
  · rcases h with hu | ⟨-, document', hc, -⟩
    · rw [heq]
      exact .inl hu
    · rw [hc] at hnone
      cases hnone
  · rw [SetOnce.read_of_settled h] at hr
    cases hr
    rw [heq]
    exact .inl rfl

end Step

end Channel

/-! ## A row of calls -/

namespace Session

variable [RegexCompiler]

/-- The tables in front of the call at a position, in a process that starts without tables. -/
def tablesAt (calls : List Call) (i : Nat) : Tables :=
  (Tables.run {} (calls.take i)).2

/-- The answers to the calls. -/
def replies (calls : List Call) : List Reply :=
  (Tables.run {} calls).1

theorem run_take_succ (tables : Tables) {calls : List Call} {i : Nat} {call : Call}
    (h : calls[i]? = some call) :
    (tables.run (calls.take (i + 1))).2 = ((tables.run (calls.take i)).2.step call).2 := by
  induction calls generalizing tables i with
  | nil => cases h
  | cons first calls ih =>
    cases i with
    | zero =>
      cases h
      rfl
    | succ i => exact ih _ h

theorem getElem?_run (tables : Tables) (calls : List Call) (i : Nat) :
    (tables.run calls).1[i]? =
      calls[i]?.map fun call => ((tables.run (calls.take i)).2.step call).1 := by
  induction calls generalizing tables i with
  | nil => rfl
  | cons first calls ih =>
    cases i with
    | zero => rfl
    | succ i => exact ih _ i

theorem tablesAt_succ {calls : List Call} {i : Nat} {call : Call} (h : calls[i]? = some call) :
    tablesAt calls (i + 1) = ((tablesAt calls i).step call).2 :=
  run_take_succ {} h

theorem reply_eq {calls : List Call} {i : Nat} {call : Call} (h : calls[i]? = some call) :
    (replies calls)[i]? = some ((tablesAt calls i).step call).1 := by
  rw [replies, getElem?_run, h]
  rfl

theorem tablesAt_succ_of_none {calls : List Call} {i : Nat} (h : calls[i]? = none) :
    tablesAt calls (i + 1) = tablesAt calls i := by
  have hlen : calls.length ≤ i := List.getElem?_eq_none_iff.1 h
  rw [tablesAt, tablesAt, List.take_of_length_le hlen,
    List.take_of_length_le (Nat.le_succ_of_le hlen)]

/-- What every call keeps holds from some position on, if it holds there. -/
theorem tablesAt_of_le {calls : List Call} {motive : Tables → Prop} {i j : Nat}
    (hstep : ∀ tables call, motive tables → motive (tables.step call).2) (hij : i ≤ j)
    (h : motive (tablesAt calls i)) : motive (tablesAt calls j) := by
  induction hij with
  | refl => exact h
  | @step j _ ih =>
    cases hc : calls[j]? with
    | none =>
      rw [tablesAt_succ_of_none hc]
      exact ih
    | some call =>
      rw [tablesAt_succ hc]
      exact hstep _ call ih

end Session

namespace Channel

open Session

section Row

variable [RegexCompiler] {ε α : Type} (channel : Channel ε α) (calls : List Call)

/-- The call at a position is to install a document. -/
def Offers (i : Nat) (document : Text) : Prop :=
  calls[i]?.bind channel.document? = some document

/-- The call at a position installs a document. -/
def Installs (i : Nat) (document : Text) : Prop :=
  channel.Offers calls i document ∧ (replies calls)[i]? = some .installed

/-- The call at a position uses the table, and would make this of it. -/
def Uses (i : Nat) (answer : α → Reply) : Prop :=
  calls[i]?.bind channel.answer? = some answer

/-- The table is not used in front of a position. -/
def Unused (i : Nat) : Prop :=
  ∀ j < i, ∀ answer, ¬ channel.Uses calls j answer

/-- What a process sees of a table. -/
structure ReplacedOnce : Prop where
  /-- One document at most is installed. -/
  installs_unique : ∀ i j document document', channel.Installs calls i document →
    channel.Installs calls j document' → i = j
  /-- A document that is refused changes nothing. -/
  unchanged : ∀ i document error, channel.Offers calls i document →
    (replies calls)[i]? = some (channel.refused error) → tablesAt calls (i + 1) = tablesAt calls i
  /-- A document that is not valid is refused on that account, whatever came before. -/
  invalid : ∀ i document error, channel.Offers calls i document →
    channel.kind.parse document = .error error →
      (replies calls)[i]? = some (channel.refused error)
  /-- All uses are uses of one table: that of the document installed before the first of them, or
  else the default. -/
  one_table : ∃ table,
    (∀ i answer, channel.Uses calls i answer → (replies calls)[i]? = some (answer table)) ∧
    (∀ i document, channel.Installs calls i document → channel.Unused calls i →
      channel.kind.parse document = .ok table) ∧
    ((∀ i document, channel.Installs calls i document → ¬ channel.Unused calls i) →
      channel.kind.parse channel.kind.defaultText = .ok table)

variable {channel calls} {i j : Nat} {document : Text} {answer : α → Reply}

theorem valid_tablesAt (channel : Channel ε α) (calls : List Call) (i : Nat) :
    (channel.slot (tablesAt calls i)).Valid channel.kind := by
  refine tablesAt_of_le (motive := fun tables => (channel.slot tables).Valid channel.kind)
    (fun _ call => channel.valid_step call) (Nat.zero_le i) ?_
  intro document h
  rw [tablesAt, List.take_zero, Tables.run, channel.slot_initial] at h
  cases h

theorem settled_of_le {table : α} (hij : i ≤ j)
    (h : (channel.slot (tablesAt calls i)).Settled channel.kind table) :
    (channel.slot (tablesAt calls j)).Settled channel.kind table := by
  refine (tablesAt_of_le (motive := fun tables => (channel.slot tables).Valid channel.kind ∧
    (channel.slot tables).Settled channel.kind table) (fun _ call h => ?_) hij
    ⟨valid_tablesAt channel calls i, h⟩).2
  exact ⟨channel.valid_step call h.1, channel.settled_step call h.1 h.2⟩

theorem custom_of_le (hij : i ≤ j) (h : (channel.slot (tablesAt calls i)).custom = some document) :
    (channel.slot (tablesAt calls j)).custom = some document := by
  refine (tablesAt_of_le (motive := fun tables => (channel.slot tables).Valid channel.kind ∧
    (channel.slot tables).custom = some document) (fun _ call h => ?_) hij
    ⟨valid_tablesAt channel calls i, h⟩).2
  exact ⟨channel.valid_step call h.1, channel.custom_step call h.1 h.2⟩

/-- The document that is installed is valid and the first one. -/
theorem Installs.slot_succ (h : channel.Installs calls i document) :
    (∃ table, channel.kind.parse document = .ok table) ∧
      (channel.slot (tablesAt calls i)).custom = none ∧
      channel.slot (tablesAt calls (i + 1)) =
        { channel.slot (tablesAt calls i) with custom := some document } := by
  obtain ⟨hd, hr⟩ := h
  obtain ⟨call, hc, hd⟩ := Option.bind_eq_some_iff.1 hd
  rw [reply_eq hc, Option.some.injEq] at hr
  rw [tablesAt_succ hc]
  rcases channel.step_cases (valid_tablesAt channel calls i) call with ⟨-, -, hne⟩ |
    ⟨document', table, hd', hp, hnone, -, heq⟩ | ⟨answer, table, ha, -⟩
  · exact absurd hr (hne document hd)
  · rw [hd] at hd'
    cases hd'
    exact ⟨⟨table, hp⟩, hnone, heq⟩
  · rw [channel.answer?_eq_none hd] at ha
    cases ha

/-- The table that is used is settled from then on. -/
theorem Uses.slot_succ (h : channel.Uses calls i answer) :
    ∃ table, (replies calls)[i]? = some (answer table) ∧
      (channel.slot (tablesAt calls i)).read channel.kind =
        .ok (table, { channel.slot (tablesAt calls i) with inUse := some table }) ∧
      (channel.slot (tablesAt calls (i + 1))).Settled channel.kind table := by
  obtain ⟨call, hc, ha⟩ := Option.bind_eq_some_iff.1 h
  rw [reply_eq hc, tablesAt_succ hc]
  rcases channel.step_cases (valid_tablesAt channel calls i) call with ⟨-, hnone, -⟩ |
    ⟨document, _, hd, -⟩ | ⟨answer', table, ha', hread, hr, heq⟩
  · rw [ha] at hnone
    cases hnone
  · rw [channel.answer?_eq_none hd] at ha
    cases ha
  · rw [ha] at ha'
    cases ha'
    exact ⟨table, congrArg some hr, hread, .inl (by rw [heq])⟩

/-- A use of a settled table. -/
theorem Uses.reply_of_settled (h : channel.Uses calls i answer) {table : α}
    (hs : (channel.slot (tablesAt calls i)).Settled channel.kind table) :
    (replies calls)[i]? = some (answer table) := by
  obtain ⟨table', hr, hread, -⟩ := h.slot_succ
  rw [SetOnce.read_of_settled hs] at hread
  cases hread
  exact hr

/-- A table that was not used is not in use. -/
theorem Unused.inUse_eq_none (h : channel.Unused calls i) :
    (channel.slot (tablesAt calls i)).inUse = none := by
  induction i with
  | zero => exact congrArg SetOnce.inUse channel.slot_initial
  | succ i ih =>
    have hi := ih fun j hj => h j (Nat.lt_succ_of_lt hj)
    cases hc : calls[i]? with
    | none => rw [tablesAt_succ_of_none hc, hi]
    | some call =>
      rw [tablesAt_succ hc]
      rcases channel.step_cases (valid_tablesAt channel calls i) call with ⟨heq, -⟩ |
        ⟨_, _, -, -, -, -, heq⟩ | ⟨answer, _, ha, -⟩
      · rw [heq, hi]
      · rw [heq]
        exact hi
      · exact absurd (Option.bind_eq_some_iff.2 ⟨call, hc, ha⟩) (h i (Nat.lt_succ_self i) answer)

/-- The document that replaces the default is the one that was installed. -/
theorem custom_eq_some_iff :
    (channel.slot (tablesAt calls i)).custom = some document ↔
      ∃ j < i, channel.Installs calls j document := by
  constructor
  · intro h
    induction i with
    | zero =>
      have hinitial : (channel.slot (tablesAt calls 0)).custom = none :=
        congrArg SetOnce.custom channel.slot_initial
      rw [hinitial] at h
      cases h
    | succ i ih =>
      have hearlier (hi : (channel.slot (tablesAt calls i)).custom = some document) :
          ∃ j < i + 1, channel.Installs calls j document := by
        obtain ⟨j, hj, hinst⟩ := ih hi
        exact ⟨j, Nat.lt_succ_of_lt hj, hinst⟩
      cases hc : calls[i]? with
      | none =>
        rw [tablesAt_succ_of_none hc] at h
        exact hearlier h
      | some call =>
        rw [tablesAt_succ hc] at h
        rcases channel.step_cases (valid_tablesAt channel calls i) call with ⟨heq, -⟩ |
          ⟨document', _, hd, -, -, hr, heq⟩ | ⟨_, _, -, -, -, heq⟩
        · rw [heq] at h
          exact hearlier h
        · rw [heq] at h
          cases h
          exact ⟨i, Nat.lt_succ_self i, Option.bind_eq_some_iff.2 ⟨call, hc, hd⟩,
            (reply_eq hc).trans (congrArg some hr)⟩
        · rw [heq] at h
          exact hearlier h
  · rintro ⟨j, hj, h⟩
    refine custom_of_le (Nat.succ_le_of_lt hj) ?_
    rw [h.slot_succ.2.2]

/-- No position is one of an installation and of a use. -/
theorem Installs.not_uses (h : channel.Installs calls i document) : ¬ channel.Uses calls i answer := by
  intro hu
  obtain ⟨call, hc, hd⟩ := Option.bind_eq_some_iff.1 h.1
  rw [Uses, hc, Option.bind_some, channel.answer?_eq_none hd] at hu
  cases hu

/-- Of two installations none is the earlier one. -/
theorem Installs.not_lt {document' : Text} (h : channel.Installs calls i document)
    (h' : channel.Installs calls j document') : ¬ i < j := by
  intro hij
  have hc := custom_eq_some_iff.2 ⟨i, hij, h⟩
  rw [h'.slot_succ.2.1] at hc
  cases hc

theorem Installs.eq {document' : Text} (h : channel.Installs calls i document)
    (h' : channel.Installs calls j document') : i = j := by
  have hij := h.not_lt h'
  have hji := h'.not_lt h
  omega

/-- A document that is installed before the first use is the one that is used. -/
theorem Installs.reply_of_unused (h : channel.Installs calls i document)
    (hfirst : channel.Unused calls i) {table : α} (hp : channel.kind.parse document = .ok table)
    (hu : channel.Uses calls j answer) : (replies calls)[j]? = some (answer table) := by
  have hij : i + 1 ≤ j := by
    have hne : i ≠ j := by
      rintro rfl
      exact h.not_uses hu
    have hle : ¬ j < i := fun hlt => hfirst j hlt answer hu
    omega
  refine hu.reply_of_settled (settled_of_le hij ?_)
  rw [h.slot_succ.2.2]
  exact .inr ⟨hfirst.inUse_eq_none, document, rfl, hp⟩

/-- Without a document that is installed before the first use, the default is used. -/
theorem Uses.reply_of_default (hnone : ∀ i document, channel.Installs calls i document →
    ¬ channel.Unused calls i) (hu : channel.Uses calls j answer) :
    (replies calls)[j]? = some (answer channel.kind.default) := by
  classical
  have hex : ∃ k answer, channel.Uses calls k answer := ⟨j, answer, hu⟩
  obtain ⟨first, hfirst⟩ := Nat.find_spec hex
  have hunused : channel.Unused calls (Nat.find hex) :=
    fun k hk answer h => Nat.find_min hex hk ⟨answer, h⟩
  have hslot : channel.slot (tablesAt calls (Nat.find hex)) = {} := by
    have hcustom : (channel.slot (tablesAt calls (Nat.find hex))).custom = none := by
      rw [Option.eq_none_iff_forall_ne_some]
      intro document hd
      obtain ⟨k, hk, hinst⟩ := custom_eq_some_iff.1 hd
      exact hnone k document hinst fun l hl => hunused l (Nat.lt_trans hl hk)
    have huse := hunused.inUse_eq_none
    generalize channel.slot (tablesAt calls (Nat.find hex)) = slot at hcustom huse
    obtain ⟨custom, inUse⟩ := slot
    cases hcustom
    cases huse
    rfl
  obtain ⟨table, hr, hread, hsettled⟩ := hfirst.slot_succ
  rw [hslot, SetOnce.read_initial] at hread
  cases hread
  rcases Nat.eq_or_lt_of_le (Nat.find_min' hex ⟨answer, hu⟩) with heq | hlt
  · rw [heq] at hfirst hr
    rw [Uses, hu] at hfirst
    cases hfirst
    exact hr
  · exact hu.reply_of_settled (settled_of_le hlt hsettled)

theorem replacedOnce (channel : Channel ε α) (calls : List Call) :
    channel.ReplacedOnce calls where
  installs_unique _ _ _ _ h h' := h.eq h'
  unchanged i document error hd hr := by
    obtain ⟨call, hc, hd⟩ := Option.bind_eq_some_iff.1 hd
    rw [reply_eq hc, Option.some.injEq, channel.step_install _ hd] at hr
    rw [tablesAt_succ hc, channel.step_install _ hd]
    cases hi : (channel.slot (tablesAt calls i)).install channel.kind document with
    | error error => rfl
    | ok slot' =>
      rw [hi] at hr
      exact absurd hr.symm (channel.refused_ne_installed error)
  invalid i document error hd hp := by
    obtain ⟨call, hc, hd⟩ := Option.bind_eq_some_iff.1 hd
    rw [reply_eq hc, channel.step_install _ hd, SetOnce.install_of_invalid hp]
    rfl
  one_table := by
    by_cases h : ∃ i document, channel.Installs calls i document ∧ channel.Unused calls i
    · obtain ⟨i, document, hinst, hfirst⟩ := h
      obtain ⟨table, hp⟩ := hinst.slot_succ.1
      refine ⟨table, fun j answer hu => hinst.reply_of_unused hfirst hp hu, ?_, fun hnone => ?_⟩
      · intro j document' hinst' _
        obtain rfl := hinst.eq hinst'
        rw [← hp, Option.some.inj (hinst.1.symm.trans hinst'.1)]
      · exact absurd hfirst (hnone i document hinst)
    · have hnone : ∀ i document, channel.Installs calls i document → ¬ channel.Unused calls i :=
        fun i document hinst hfirst => h ⟨i, document, hinst, hfirst⟩
      refine ⟨channel.kind.default, fun j answer hu => hu.reply_of_default hnone, ?_, fun _ => ?_⟩
      · intro j document hinst hfirst
        exact absurd hfirst (hnone j document hinst)
      · exact channel.kind.parse_defaultText

variable (channel calls) in
/-- What comes of an installation. -/
structure TakesEffect : Prop where
  /-- A document that is installed before the first use is the one that is used. -/
  early : ∀ i document, channel.Installs calls i document → channel.Unused calls i →
    ∃ table, channel.kind.parse document = .ok table ∧
      ∀ j answer, channel.Uses calls j answer → (replies calls)[j]? = some (answer table)
  /-- A document that is installed later is not used. -/
  late : ∀ i document, channel.Installs calls i document → ¬ channel.Unused calls i →
    ∀ j answer, channel.Uses calls j answer →
      (replies calls)[j]? = some (answer channel.kind.default)
  /-- A valid document is refused on account of an earlier one, and on no other account: it does
  not matter whether the table is in use. -/
  refused_iff : ∀ i document table, channel.Offers calls i document →
    channel.kind.parse document = .ok table →
      ((replies calls)[i]? = some (channel.refused channel.kind.alreadyInstalled) ↔
        ∃ j < i, ∃ document', channel.Installs calls j document')

theorem takesEffect (channel : Channel ε α) (calls : List Call) : channel.TakesEffect calls where
  early i document hinst hfirst := by
    obtain ⟨table, hp⟩ := hinst.slot_succ.1
    exact ⟨table, hp, fun j answer hu => hinst.reply_of_unused hfirst hp hu⟩
  late i document hinst hlate j answer hu := by
    refine hu.reply_of_default fun k document' hinst' => ?_
    rwa [hinst'.eq hinst]
  refused_iff i document table hoffer hp := by
    obtain ⟨call, hc, hd⟩ := Option.bind_eq_some_iff.1 hoffer
    rw [reply_eq hc, Option.some.injEq, channel.step_install _ hd]
    constructor
    · intro hr
      cases hcustom : (channel.slot (tablesAt calls i)).custom with
      | none =>
        have hi := SetOnce.install_eq_ok_iff.2 ⟨⟨table, hp⟩, hcustom, rfl⟩
        rw [hi] at hr
        exact absurd hr.symm (channel.refused_ne_installed _)
      | some document' =>
        obtain ⟨j, hj, hinst⟩ := custom_eq_some_iff.1 hcustom
        exact ⟨j, hj, document', hinst⟩
    · rintro ⟨j, hj, document', hinst⟩
      rw [SetOnce.install_of_installed hp (custom_eq_some_iff.2 ⟨j, hj, hinst⟩)]
      rfl

end Row

end Channel

/-! ## The tables of a process -/

open Session

/-- With valid documents no call ends the process. -/
theorem Tables.step_ne_crashed [RegexCompiler] {tables : Tables}
    (hn : tables.names.Valid NameTable.kind) (hu : tables.units.Valid UnitTable.kind) (call : Call) :
    (tables.step call).1 ≠ .crashed := by
  obtain ⟨lexicon, hnames⟩ := SetOnce.exists_read_eq_ok hn
  obtain ⟨table, hunits⟩ := SetOnce.exists_read_eq_ok hu
  cases call with
  | installNames document =>
    rw [tables.step_of_namesDocument? rfl]
    cases tables.names.install NameTable.kind document <;> nofun
  | installUnits document =>
    rw [tables.step_of_unitsDocument? rfl]
    cases tables.units.install UnitTable.kind document <;> nofun
  | readNames =>
    rw [tables.step_of_namesAnswer? rfl, hnames]
    nofun
  | readUnits =>
    rw [tables.step_of_unitsAnswer? rfl, hunits]
    nofun
  | transliterator name =>
    rw [tables.step_of_unitsAnswer? rfl, hunits]
    nofun
  | compile builtin options map direction source =>
    rw [tables.step_of_unitsAnswer? rfl, hunits]
    nofun

/-- In any row of calls, with any documents, each table is replaced once at most, and all uses of it
are of one table. No document that is put to use is invalid. -/
theorem replacedOnce_of_run [RegexCompiler] (calls : List Call) :
    Reply.crashed ∉ replies calls ∧ Channel.names.ReplacedOnce calls ∧
      Channel.units.ReplacedOnce calls := by
  refine ⟨fun hmem => ?_, Channel.names.replacedOnce calls, Channel.units.replacedOnce calls⟩
  obtain ⟨i, h⟩ := List.mem_iff_getElem?.1 hmem
  cases hc : calls[i]? with
  | none =>
    rw [replies, getElem?_run, hc] at h
    cases h
  | some call =>
    rw [reply_eq hc, Option.some.injEq] at h
    exact Tables.step_ne_crashed (Channel.valid_tablesAt .names calls i)
      (Channel.valid_tablesAt .units calls i) call h

/-- In any row of calls an installation takes effect if it comes before the first use of the table,
and only then. -/
theorem takesEffect_of_run [RegexCompiler] (calls : List Call) :
    Channel.names.TakesEffect calls ∧ Channel.units.TakesEffect calls :=
  ⟨Channel.names.takesEffect calls, Channel.units.takesEffect calls⟩

/-- A name table of one word. -/
def oneName : Text :=
  "[names]\nx = \"y\"\n".toList

theorem exists_parse_oneName :
    ∃ lexicon, NameTable.kind.parse oneName = .ok lexicon ∧ lexicon.size = 1 := by
  have hsize : (NameTable.parse oneName).toOption.map Lexicon.size = some 1 := by decide +kernel
  change ∃ lexicon, NameTable.parse oneName = .ok lexicon ∧ lexicon.size = 1
  cases hp : NameTable.parse oneName with
  | error error =>
    rw [hp] at hsize
    cases hsize
  | ok lexicon =>
    rw [hp] at hsize
    exact ⟨lexicon, rfl, Option.some.inj hsize⟩

theorem NameTable.size_default : NameTable.default.size = 37 := by
  rw [NameTable.default, NameTable.defaultText, String.toList_ofList]
  decide +kernel

theorem NameTable.kind_default : NameTable.kind.default = NameTable.default := by
  rw [NameTable.kind]

/-- An installation between two uses. The default is a variable, so that nothing here evaluates its
document. -/
theorem replies_install_between [RegexCompiler] {table : Lexicon}
    (hd : NameTable.kind.default = table) :
    replies [.readNames, .installNames oneName, .readNames] =
      [.names table, .installed, .names table] := by
  obtain ⟨lexicon, hp, -⟩ := exists_parse_oneName
  have hread := @SetOnce.read_initial _ _ NameTable.kind
  rw [hd] at hread
  have hfirst : Tables.step {} .readNames = (.names table, { names := { inUse := some table } }) := by
    rw [Tables.step_of_namesAnswer? _ rfl, hread]
    rfl
  have hinstall : SetOnce.install NameTable.kind { inUse := some table } oneName =
      .ok { custom := some oneName, inUse := some table } :=
    SetOnce.install_eq_ok_iff.2 ⟨⟨lexicon, hp⟩, rfl, rfl⟩
  have hsecond : Tables.step { names := { inUse := some table } } (.installNames oneName) =
      (.installed, { names := { custom := some oneName, inUse := some table } }) := by
    rw [Tables.step_of_namesDocument? _ rfl, hinstall]
    rfl
  rw [replies, Tables.run, hfirst]
  simp only [Tables.run, hsecond]
  rfl

/-- A document that is installed after the first use of the table is accepted, and the table that is
read stays the same. -/
theorem replies_install_after_use :
    replies [.readNames, .installNames oneName, .readNames] =
        [.names NameTable.default, .installed, .names NameTable.default] ∧
      ∃ lexicon, NameTable.kind.parse oneName = .ok lexicon ∧
        lexicon.size ≠ NameTable.default.size := by
  obtain ⟨lexicon, hp, hsize⟩ := exists_parse_oneName
  refine ⟨replies_install_between NameTable.kind_default, lexicon, hp, ?_⟩
  rw [hsize, NameTable.size_default]
  decide

end Wordbridge
