import Wordbridge.Proofs.ByteOrder
import Wordbridge.Proofs.Romanization
import Wordbridge.Romanization.Document

/-!
# Unit tables that take effect

The units of a document are checked one after the other, in the order of their
bytes, and the first fault counts (`check_eq_error_iff`). A table passes if all
its units take effect (`IsEffective`): each is spelled as its value, and what a
text is spelled with is Latin or was no unit.
-/

namespace Wordbridge

/-- A letter from `A` to `Z` or from `a` to `z`. -/
def Text.IsAsciiLetter (c : Char) : Prop :=
  ('A' ≤ c ∧ c ≤ 'Z') ∨ ('a' ≤ c ∧ c ≤ 'z')

theorem Text.isLatin_iff {text : Text} : isLatin text = true ↔ ∀ c ∈ text, IsAsciiLetter c := by
  have halpha : ∀ c : Char, c.isAlpha = true ↔ IsAsciiLetter c := by
    intro c
    have hrfl : c.isAlpha =
        (decide ('A' ≤ c ∧ c ≤ 'Z') || decide ('a' ≤ c) && decide (c ≤ 'z')) := rfl
    rw [hrfl, IsAsciiLetter]
    simp only [Bool.or_eq_true, Bool.and_eq_true, decide_eq_true_eq]
  simp only [isLatin, List.all_eq_true, halpha]

namespace UnitTable

variable {units : Std.TreeMap Text Text} {unit value : Text} {error : Error}

/-! ## One unit -/

/-- The unit is not empty and in lower case, and its value is Latin. -/
structure IsProper (unit value : Text) : Prop where
  ne_nil : unit ≠ []
  lower_eq : Text.lower unit = unit
  latin : ∀ c ∈ value, Text.IsAsciiLetter c

/-- The first thing that is wrong with a unit and its value. -/
inductive Defect : Text → Text → Error → Prop
  | emptyUnit {value : Text} : Defect [] value .emptyUnit
  | upperCaseUnit {unit value : Text} (ne_nil : unit ≠ []) (lower_ne : Text.lower unit ≠ unit) :
    Defect unit value (.upperCaseUnit unit)
  | nonLatinValue {unit value : Text} {c : Char} (ne_nil : unit ≠ [])
    (lower_eq : Text.lower unit = unit) (mem : c ∈ value) (notLatin : ¬ Text.IsAsciiLetter c) :
    Defect unit value (.nonLatinValue unit value)

theorem checkUnit_of_isProper (h : IsProper unit value) : checkUnit unit value = .ok () := by
  have hlatin : Text.isLatin value = true := Text.isLatin_iff.2 h.latin
  rw [checkUnit, if_neg h.ne_nil, if_neg (not_not.2 h.lower_eq), hlatin]
  rfl

theorem checkUnit_of_defect (h : Defect unit value error) :
    checkUnit unit value = .error error := by
  cases h with
  | emptyUnit => rw [checkUnit, if_pos rfl]
  | upperCaseUnit ne_nil lower_ne => rw [checkUnit, if_neg ne_nil, if_pos lower_ne]
  | nonLatinValue ne_nil lower_eq mem notLatin =>
    have hlatin : Text.isLatin value = false := by
      rw [Bool.eq_false_iff]
      exact fun h => notLatin (Text.isLatin_iff.1 h _ mem)
    rw [checkUnit, if_neg ne_nil, if_neg (not_not.2 lower_eq), hlatin]
    rfl

theorem Defect.not_isProper (h : Defect unit value error) : ¬ IsProper unit value := by
  intro hproper
  cases h with
  | emptyUnit => exact hproper.ne_nil rfl
  | upperCaseUnit _ lower_ne => exact lower_ne hproper.lower_eq
  | nonLatinValue _ _ mem notLatin => exact notLatin (hproper.latin _ mem)

theorem isProper_or_exists_defect (unit value : Text) :
    IsProper unit value ∨ ∃ error, Defect unit value error := by
  by_cases hne : unit = []
  · subst hne
    exact .inr ⟨_, .emptyUnit⟩
  by_cases hlower : Text.lower unit = unit
  · by_cases hlatin : ∀ c ∈ value, Text.IsAsciiLetter c
    · exact .inl ⟨hne, hlower, hlatin⟩
    · obtain ⟨c, hc⟩ := not_forall.1 hlatin
      obtain ⟨hmem, hnot⟩ := Classical.not_imp.1 hc
      exact .inr ⟨_, .nonLatinValue hne hlower hmem hnot⟩
  · exact .inr ⟨_, .upperCaseUnit hne hlower⟩

/-! ## Units in order -/

theorem check_cons_of_isProper (h : IsProper unit value) (entries : List (Text × Text)) :
    check ((unit, value) :: entries) = check entries := by
  rw [check, checkUnit_of_isProper h]
  rfl

theorem check_cons_of_defect (h : Defect unit value error) (entries : List (Text × Text)) :
    check ((unit, value) :: entries) = .error error := by
  rw [check, checkUnit_of_defect h]
  rfl

theorem check_eq_ok_iff {entries : List (Text × Text)} :
    check entries = .ok () ↔ ∀ entry ∈ entries, IsProper entry.1 entry.2 := by
  induction entries with
  | nil => simp [check]
  | cons entry entries ih =>
    obtain ⟨unit, value⟩ := entry
    rw [List.forall_mem_cons]
    rcases isProper_or_exists_defect unit value with hproper | ⟨error, hdefect⟩
    · rw [check_cons_of_isProper hproper, ih, and_iff_right hproper]
    · rw [check_cons_of_defect hdefect]
      exact ⟨nofun, fun h => absurd h.1 hdefect.not_isProper⟩

/-- The defect of the first unit that is not proper is reported. -/
theorem check_eq_error_iff {entries : List (Text × Text)} :
    check entries = .error error ↔
      ∃ front unit value back, entries = front ++ (unit, value) :: back ∧
        (∀ entry ∈ front, IsProper entry.1 entry.2) ∧ Defect unit value error := by
  constructor
  · intro h
    induction entries with
    | nil => cases h
    | cons entry entries ih =>
      obtain ⟨unit, value⟩ := entry
      rcases isProper_or_exists_defect unit value with hproper | ⟨error', hdefect⟩
      · rw [check_cons_of_isProper hproper] at h
        obtain ⟨front, unit', value', back, rfl, hfront, hdefect⟩ := ih h
        exact ⟨(unit, value) :: front, unit', value', back, rfl,
          List.forall_mem_cons.2 ⟨hproper, hfront⟩, hdefect⟩
      · rw [check_cons_of_defect hdefect] at h
        obtain rfl := Except.error.inj h
        exact ⟨[], unit, value, entries, rfl, by simp, hdefect⟩
  · rintro ⟨front, unit, value, back, rfl, hfront, hdefect⟩
    induction front with
    | nil => exact check_cons_of_defect hdefect back
    | cons entry front ih =>
      obtain ⟨hproper, hfront⟩ := List.forall_mem_cons.1 hfront
      rw [List.cons_append]
      exact (check_cons_of_isProper hproper _).trans (ih hfront)

/-! ## Tables -/

/-- The table has units, and all of them are proper. -/
structure IsEffective (units : Std.TreeMap Text Text) : Prop where
  nonempty : units.isEmpty = false
  isProper : ∀ unit value : Text, units[unit]? = some value → IsProper unit value

/-- The first thing that is wrong with a unit of the table. -/
def Fault (units : Std.TreeMap Text Text) (unit : Text) (error : Error) : Prop :=
  ∃ value, units[unit]? = some value ∧ Defect unit value error

/-- The fault of the unit is the first one in the order of bytes. -/
def IsFirstFault (units : Std.TreeMap Text Text) (unit : Text) (error : Error) : Prop :=
  Fault units unit error ∧
    ∀ unit', Utf8.encode unit' < Utf8.encode unit → ∀ error', ¬ Fault units unit' error'

/-- The units before a unit are proper if none of them has a fault. -/
theorem forall_mem_front_iff {front back : List (Text × Text)}
    (h : units.toList = front ++ (unit, value) :: back) :
    (∀ entry ∈ front, IsProper entry.1 entry.2) ↔
      ∀ unit', Utf8.encode unit' < Utf8.encode unit → ∀ error, ¬ Fault units unit' error := by
  constructor
  · rintro hfront unit' hlt error ⟨value', himage, hdefect⟩
    exact hdefect.not_isProper (hfront (unit', value') ((mem_front_iff h).2 ⟨himage, hlt⟩))
  · rintro hnot ⟨unit', value'⟩ hmem
    obtain ⟨himage, hlt⟩ := (mem_front_iff h).1 hmem
    refine (isProper_or_exists_defect unit' value').resolve_right ?_
    rintro ⟨error, hdefect⟩
    exact hnot unit' hlt error ⟨value', himage, hdefect⟩

theorem check_toList_eq_error_iff :
    check units.toList = .error error ↔ ∃ unit, IsFirstFault units unit error := by
  rw [check_eq_error_iff]
  constructor
  · rintro ⟨front, unit, value, back, h, hfront, hdefect⟩
    have himage : units[unit]? = some value := by
      rw [← Std.TreeMap.mem_toList_iff_getElem?_eq_some, h]
      simp
    exact ⟨unit, ⟨value, himage, hdefect⟩, (forall_mem_front_iff h).1 hfront⟩
  · rintro ⟨unit, ⟨value, himage, hdefect⟩, hnot⟩
    obtain ⟨front, back, h⟩ :=
      List.append_of_mem (Std.TreeMap.mem_toList_iff_getElem?_eq_some.2 himage)
    exact ⟨front, unit, value, back, h, (forall_mem_front_iff h).2 hnot, hdefect⟩

theorem check_toList_eq_ok_iff :
    check units.toList = .ok () ↔
      ∀ unit value : Text, units[unit]? = some value → IsProper unit value := by
  simp only [check_eq_ok_iff, ← Std.TreeMap.mem_toList_iff_getElem?_eq_some, Prod.forall]

theorem ofStrings_eq (units : Std.TreeMap Text Text) :
    ofStrings units =
      if units.isEmpty then .error .empty
      else (check units.toList).map fun _ => ofUnits units := by
  unfold ofStrings
  split
  · rfl
  · cases check units.toList with
    | error error => rfl
    | ok => rfl

theorem ofStrings_eq_ok_iff {table : UnitTable} :
    ofStrings units = .ok table ↔ IsEffective units ∧ table = ofUnits units := by
  rw [ofStrings_eq]
  constructor
  · intro h
    split at h
    · cases h
    · rename_i hempty
      cases hcheck : check units.toList with
      | error error =>
        rw [hcheck] at h
        cases h
      | ok =>
        rw [hcheck] at h
        exact ⟨⟨by simpa using hempty, check_toList_eq_ok_iff.1 hcheck⟩, (Except.ok.inj h).symm⟩
  · rintro ⟨⟨hempty, hproper⟩, rfl⟩
    have hcheck : check units.toList = .ok () := check_toList_eq_ok_iff.2 hproper
    rw [hempty, hcheck]
    rfl

theorem ofStrings_eq_error_iff :
    ofStrings units = .error error ↔
      (units.isEmpty = true ∧ error = .empty) ∨ ∃ unit, IsFirstFault units unit error := by
  rw [ofStrings_eq, ← check_toList_eq_error_iff]
  by_cases hempty : units.isEmpty = true
  · have hnil : units.toList = [] := by
      rwa [← List.isEmpty_iff, Std.TreeMap.isEmpty_toList]
    have hok : check units.toList ≠ .error error := by
      rw [hnil]
      nofun
    simp [hempty, hok, eq_comm]
  · rw [if_neg hempty]
    cases check units.toList with
    | error error' => simp [Except.map, hempty]
    | ok => simp [Except.map, hempty]

theorem parse_of_strings {document : Text} (h : strings document = .ok units) :
    parse document = ofStrings units := by
  rw [parse, h]
  rfl

/-- The table of a document is made of proper units. -/
theorem isEffective_of_parse {document : Text} {table : UnitTable}
    (h : parse document = .ok table) : IsEffective table.units ∧ table = ofUnits table.units := by
  cases hs : strings document with
  | error error =>
    rw [parse, hs] at h
    cases h
  | ok units =>
    rw [parse_of_strings hs] at h
    obtain ⟨heffective, rfl⟩ := ofStrings_eq_ok_iff.1 h
    exact ⟨heffective, rfl⟩

/-- The units of the default table, in the order of their bytes. -/
theorem toList_units_default :
    default.units.toList =
      [(['а'], ['a']), (['б'], ['b']), (['в'], ['v']), (['г'], ['g']), (['д'], ['d']),
        (['е'], ['e']), (['е', '\u0308'], ['y', 'o']), (['ж'], ['z', 'h']), (['з'], ['z']),
        (['и'], ['i']), (['и', '\u0306'], ['y']), (['й'], ['y']), (['к'], ['k']), (['л'], ['l']),
        (['м'], ['m']), (['н'], ['n']), (['о'], ['o']), (['п'], ['p']), (['р'], ['r']),
        (['с'], ['s']), (['т'], ['t']), (['у'], ['u']), (['у', '\u0306'], ['w']), (['ф'], ['f']),
        (['х'], ['k', 'h']), (['ц'], ['t', 's']), (['ч'], ['c', 'h']), (['ш'], ['s', 'h']),
        (['щ'], ['s', 'h', 'c', 'h']), (['ъ'], []), (['ы'], ['y']), (['ь'], []), (['э'], ['e']),
        (['ю'], ['y', 'u']), (['я'], ['y', 'a']), (['ё'], ['y', 'o']), (['є'], ['y', 'e']),
        (['і'], ['i']), (['і', '\u0308'], ['y', 'i']), (['ї'], ['y', 'i']), (['ў'], ['w']),
        (['ґ'], ['g'])] := by
  rw [default, defaultText, String.toList_ofList]
  decide +kernel

/-! ## Effect -/

/-- A unit in lower case is found again as it is. -/
theorem IsEffective.romanize_unit (h : IsEffective units) (himage : units[unit]? = some value) :
    (ofUnits units).romanize unit = value := by
  have hproper := h.isProper unit value himage
  rw [romanize, hproper.lower_eq, spell_unit himage hproper.ne_nil]

theorem IsEffective.isAsciiLetter_or (h : IsEffective units) {text : Text} {c : Char}
    (hmem : c ∈ (ofUnits units).romanize text) :
    Text.IsAsciiLetter c ∨ (c ∈ Text.lower text ∧ [c] ∉ units) := by
  refine (mem_or_of_mem_spell hmem).imp_left ?_
  rintro ⟨unit, value, himage, hvalue⟩
  exact (h.isProper unit value himage).latin c hvalue

/-- A table of units is accepted exactly if it is not empty, its units are not empty and in lower
case, and their values are ASCII letters. Else it is reported that the table is empty, or what is
wrong first with the first of its units that has a fault, in the order of their bytes. In a table
that is accepted, each unit is romanised as its value; and a romanised text has ASCII letters, and
characters of the text in lower case that are no units. -/
theorem ofStrings_eq_ok_iff_isEffective (units : Std.TreeMap Text Text) :
    (∀ document, strings document = .ok units → parse document = ofStrings units) ∧
      ((∃ table, ofStrings units = .ok table) ↔ IsEffective units) ∧
      (∀ error, ofStrings units = .error error ↔
        (units.isEmpty = true ∧ error = .empty) ∨ ∃ unit, IsFirstFault units unit error) ∧
      ∀ table, ofStrings units = .ok table →
        table.units = units ∧
        (∀ unit value : Text, units[unit]? = some value → table.romanize unit = value) ∧
        ∀ text, ∀ c ∈ table.romanize text,
          Text.IsAsciiLetter c ∨ (c ∈ Text.lower text ∧ [c] ∉ units) := by
  refine ⟨fun _ h => parse_of_strings h, ?_, fun _ => ofStrings_eq_error_iff, fun table h => ?_⟩
  · constructor
    · rintro ⟨table, h⟩
      exact (ofStrings_eq_ok_iff.1 h).1
    · exact fun h => ⟨_, ofStrings_eq_ok_iff.2 ⟨h, rfl⟩⟩
  · obtain ⟨heffective, rfl⟩ := ofStrings_eq_ok_iff.1 h
    exact ⟨rfl, fun _ _ => heffective.romanize_unit, fun _ _ => heffective.isAsciiLetter_or⟩

/-- Two units have a fault, of which the one that comes first in the document is the last in the
order of bytes. Without them, a unit takes effect although it starts with another one. -/
theorem parse_eq_error_of_upper_case_unit :
    let units : Std.TreeMap Text Text := .ofList [("я".toList, "ja!".toList),
      ("Ж".toList, "zh!".toList), ("и".toList, "i".toList), ("и\u0306".toList, [])]
    let rest := (units.erase "я".toList).erase "Ж".toList
    parse ("[mappings]\n\"я\" = \"ja!\"\n\"Ж\" = \"zh!\"\n" ++
        "\"и\" = \"i\"\n\"и\\u0306\" = \"\"\n").toList =
        .error (.upperCaseUnit "Ж".toList) ∧
      ¬ IsEffective units ∧
      (∃ unit, IsFirstFault units unit (.upperCaseUnit "Ж".toList)) ∧
      ∃ table, ofStrings rest = .ok table ∧ table.romanize "и\u0306".toList = [] ∧
        ∀ c ∈ table.romanize "И\u0306ЪИ".toList,
          Text.IsAsciiLetter c ∨ (c ∈ Text.lower "И\u0306ЪИ".toList ∧ [c] ∉ rest) := by
  intro units rest
  obtain ⟨hparse, hok, herror, -⟩ := ofStrings_eq_ok_iff_isEffective units
  obtain ⟨-, -, -, heffect⟩ := ofStrings_eq_ok_iff_isEffective rest
  have he : ofStrings units = .error (.upperCaseUnit "Ж".toList) := rfl
  obtain ⟨-, hunit, hmem⟩ := heffect (ofUnits rest) rfl
  refine ⟨(hparse _ rfl).trans he, fun hi => ?_, ((herror _).1 he).resolve_left ?_,
    _, rfl, hunit _ _ rfl, hmem _⟩
  · obtain ⟨table, ht⟩ := hok.2 hi
    rw [he] at ht
    cases ht
  · rintro ⟨-, heq⟩
    cases heq

end UnitTable

end Wordbridge
