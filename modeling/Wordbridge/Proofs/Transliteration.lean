import Mathlib.Data.List.TakeWhile
import Wordbridge.Proofs.Text
import Wordbridge.Transliteration

/-!
# Directives in a text

A directive of a name is the name, an opening parenthesis, an argument without
a closing parenthesis, and a closing parenthesis. From the left, the first
place where the name is followed by an opening parenthesis starts a directive
if any closing parenthesis follows, and then the text goes on behind that:

* `argument?_eq_some_iff`, `argument?_eq_none_iff`: what the text starts with;
* `transliterate_of_firstAt`: a text with directives;
* `transliterate_eq_self_of_not_hasDirective`: a text without them;
* `IsTransliteration.eq`: both together say what becomes of any text.
-/

namespace Wordbridge

/-! ## Names -/

namespace Text

/-- An ASCII letter or the underscore. -/
def IsLetter (c : Char) : Prop :=
  ('A' ≤ c ∧ c ≤ 'Z') ∨ ('a' ≤ c ∧ c ≤ 'z') ∨ c = '_'

/-- A letter or underscore, and then letters, digits and underscores. -/
def IsName (text : Text) : Prop :=
  ∃ c rest, text = c :: rest ∧ IsLetter c ∧ ∀ d ∈ rest, IsLetter d ∨ ('0' ≤ d ∧ d ≤ '9')

theorem startsName_iff {c : Char} : startsName c = true ↔ IsLetter c := by
  have halpha : c.isAlpha =
      (decide ('A' ≤ c ∧ c ≤ 'Z') || decide ('a' ≤ c) && decide (c ≤ 'z')) := rfl
  rw [startsName, halpha, IsLetter]
  simp only [Bool.or_eq_true, Bool.and_eq_true, decide_eq_true_eq, beq_iff_eq, or_assoc]

theorem isIdentifier_iff {text : Text} : isIdentifier text = true ↔ IsName text := by
  have hdigit : ∀ d : Char, d.isDigit = (decide ('0' ≤ d) && decide (d ≤ '9')) := fun _ => rfl
  cases text with
  | nil => simp [isIdentifier, IsName]
  | cons c rest =>
    simp only [isIdentifier, Bool.and_eq_true, List.all_eq_true, Bool.or_eq_true, startsName_iff,
      hdigit, decide_eq_true_eq]
    constructor
    · rintro ⟨hc, hrest⟩
      exact ⟨c, rest, rfl, hc, hrest⟩
    · rintro ⟨c', rest', heq, hc, hrest⟩
      obtain ⟨rfl, rfl⟩ := List.cons.inj heq
      exact ⟨hc, hrest⟩

theorem IsName.not_mem {text : Text} (h : IsName text) : '(' ∉ text := by
  have hletter : ¬ IsLetter '(' := by
    unfold IsLetter
    decide
  obtain ⟨c, rest, rfl, hc, hrest⟩ := h
  rw [List.mem_cons, not_or]
  refine ⟨?_, fun hm => ?_⟩
  · rintro rfl
    exact hletter hc
  · rcases hrest '(' hm with hd | hd
    · exact hletter hd
    · exact absurd hd (by decide)

end Text

namespace Transliterator

variable {transliterator : Transliterator}

/-! ## What a text starts with -/

/-- The text starts with the directive of this argument. -/
theorem argument?_eq_some_iff {text argument rest : Text} :
    transliterator.argument? text = some (argument, rest) ↔
      text = transliterator.name ++ ['('] ++ argument ++ [')'] ++ rest ∧ ')' ∉ argument := by
  constructor
  · intro h
    simp only [argument?, Option.bind_eq_bind, Option.bind_eq_some_iff] at h
    obtain ⟨tail, htail, h⟩ := h
    split at h
    · cases h
    · rename_i c behind hdrop
      cases h
      have hc : c = ')' := by
        have hhead := List.head?_dropWhile_not (fun c => decide (c ≠ ')')) tail
        rw [hdrop] at hhead
        simpa using hhead
      have hcut := List.takeWhile_append_dropWhile (p := fun c => decide (c ≠ ')')) (l := tail)
      rw [hdrop, hc] at hcut
      refine ⟨?_, fun hm => ?_⟩
      · rw [Text.after?_eq_some_iff.1 htail]
        simpa using hcut.symm
      · simpa using List.mem_takeWhile_imp hm
  · rintro ⟨rfl, harg⟩
    have hall : ∀ c ∈ argument, decide (c ≠ ')') = true := by
      intro c hc
      rw [decide_eq_true_eq]
      rintro rfl
      exact harg hc
    have hafter : Text.after? (transliterator.name ++ ['('])
        (transliterator.name ++ ['('] ++ argument ++ [')'] ++ rest) =
          some (argument ++ ')' :: rest) :=
      Text.after?_eq_some_iff.2 (by simp)
    rw [argument?, hafter, Option.bind_eq_bind, Option.bind_some,
      List.dropWhile_append_of_pos hall, List.takeWhile_append_of_pos hall]
    simp

/-- The text starts with no directive. -/
theorem argument?_eq_none_iff {text : Text} :
    transliterator.argument? text = none ↔
      ∀ argument rest, text ≠ transliterator.name ++ ['('] ++ argument ++ [')'] ++ rest := by
  rw [Option.eq_none_iff_forall_ne_some]
  constructor
  · rintro h argument rest rfl
    have hmem : ')' ∈ argument ++ [')'] ++ rest := by simp
    obtain ⟨argument', rest', heq, harg⟩ := List.eq_append_cons_of_mem hmem
    refine h (argument', rest') (argument?_eq_some_iff.2 ⟨?_, harg⟩)
    rw [List.append_assoc _ argument, List.append_assoc _ (argument ++ [')']), heq]
    simp
  · rintro h ⟨argument, rest⟩ hs
    exact h argument rest (argument?_eq_some_iff.1 hs).1

/-! ## The whole text -/

theorem transliterate_of_argument? {text argument rest : Text}
    (h : transliterator.argument? text = some (argument, rest)) :
    transliterator.transliterate text =
      transliterator.table.romanize argument ++ transliterator.transliterate rest := by
  cases text with
  | nil => exact absurd (length_lt_of_argument? h) (Nat.not_lt_zero _)
  | cons c text =>
    rw [transliterate]
    split
    · rename_i hs
      rw [h] at hs
      cases hs
      rfl
    · rename_i hs
      rw [h] at hs
      cases hs

theorem transliterate_cons_of_argument?_eq_none {text : Text} {c : Char}
    (h : transliterator.argument? (c :: text) = none) :
    transliterator.transliterate (c :: text) = c :: transliterator.transliterate text := by
  rw [transliterate]
  split
  · rename_i hs
    rw [h] at hs
    cases hs
  · rfl

/-- What is in front of the first directive stays, and what follows it is taken by itself. -/
theorem transliterate_of_firstAt {text front argument rest : Text}
    (h : Text.FirstAt (transliterator.name ++ ['(']) text front (argument ++ [')'] ++ rest))
    (harg : ')' ∉ argument) :
    transliterator.transliterate text =
      front ++ transliterator.table.romanize argument ++ transliterator.transliterate rest := by
  induction front generalizing text with
  | nil =>
    have htext : text = transliterator.name ++ ['('] ++ argument ++ [')'] ++ rest := by
      rw [Text.firstAt_nil_iff.1 h]
      simp
    exact transliterate_of_argument? (argument?_eq_some_iff.2 ⟨htext, harg⟩)
  | cons c front ih =>
    cases text with
    | nil => exact absurd h.1 (by simp)
    | cons d text =>
      obtain rfl : d = c := (List.cons.inj h.1).1
      obtain ⟨hnot, hfirst⟩ := Text.firstAt_cons_iff.1 h
      have hnone : transliterator.argument? (d :: text) = none := by
        rw [argument?, Text.after?_eq_none_iff.2 hnot]
        rfl
      rw [transliterate_cons_of_argument?_eq_none hnone, ih hfirst, List.cons_append,
        List.cons_append]

/-! ## Texts with and without directives -/

/-- Somewhere in the text the name is followed by an opening parenthesis, and then, anywhere, by a
closing one. -/
def HasDirective (name text : Text) : Prop :=
  ∃ front argument rest, text = front ++ (name ++ ['(']) ++ argument ++ [')'] ++ rest

theorem transliterate_eq_self_of_not_hasDirective {text : Text}
    (h : ¬ HasDirective transliterator.name text) : transliterator.transliterate text = text := by
  induction text with
  | nil => rw [transliterate]
  | cons c text ih =>
    have hnone : transliterator.argument? (c :: text) = none :=
      argument?_eq_none_iff.2 fun argument rest heq => h ⟨[], argument, rest, heq⟩
    rw [transliterate_cons_of_argument?_eq_none hnone, ih]
    rintro ⟨front, argument, rest, rfl⟩
    exact h ⟨c :: front, argument, rest, rfl⟩

/-- A text without the start of a directive stays as it is. -/
theorem transliterate_eq_self {text : Text} (h : ¬ transliterator.name ++ ['('] <:+: text) :
    transliterator.transliterate text = text := by
  refine transliterate_eq_self_of_not_hasDirective ?_
  rintro ⟨front, argument, rest, rfl⟩
  exact h ⟨front, argument ++ [')'] ++ rest, by simp⟩

/-- A text with directives has a first one. -/
theorem HasDirective.exists_firstAt {name text : Text} (h : HasDirective name text) :
    ∃ front argument rest,
      Text.FirstAt (name ++ ['(']) text front (argument ++ [')'] ++ rest) ∧ ')' ∉ argument := by
  obtain ⟨before, inside, behind, htext⟩ := h
  have heq : text = before ++ (name ++ ['(']) ++ (inside ++ [')'] ++ behind) := by
    rw [htext]
    simp
  cases hcut : Text.cutAfter? (name ++ ['(']) text with
  | none => exact absurd ⟨before, _, heq.symm⟩ (Text.cutAfter?_eq_none_iff.1 hcut)
  | some cut =>
    obtain ⟨front, -, hfirst⟩ := Text.cutAfter?_eq_some_iff.1 hcut
    obtain ⟨middle, -, hmiddle⟩ :=
      Text.exists_middle_of_append_eq (heq.symm.trans hfirst.1) (hfirst.2 _ _ heq)
    have hmem : ')' ∈ cut.2 := by simp [hmiddle]
    obtain ⟨argument, rest, hcut2, harg⟩ := List.eq_append_cons_of_mem hmem
    refine ⟨front, argument, rest, ?_, harg⟩
    rwa [List.append_assoc, List.singleton_append, ← hcut2]

/-! ## The laws of directives -/

/-- The function replaces the first directive of a text by its romanised argument and goes on behind
it, and leaves a text without directives as it is. -/
structure IsTransliteration (name : Text) (table : UnitTable) (f : Text → Text) : Prop where
  directive : ∀ front argument rest, ¬ name ++ ['('] <:+: front → ')' ∉ argument →
    f (front ++ (name ++ ['(']) ++ argument ++ [')'] ++ rest) =
      front ++ table.romanize argument ++ f rest
  unchanged : ∀ text, ¬ HasDirective name text → f text = text

theorem isTransliteration_transliterate {name : Text} (h : '(' ∉ name) (table : UnitTable) :
    IsTransliteration name table (transliterate ⟨name, table⟩) where
  directive := by
    intro front argument rest hfront harg
    have hfirst := Text.firstAt_append_concat h hfront (argument ++ [')'] ++ rest)
    rw [← List.append_assoc, ← List.append_assoc] at hfirst
    exact transliterate_of_firstAt hfirst harg
  unchanged := fun _ hd => transliterate_eq_self_of_not_hasDirective hd

/-- The laws determine the function. -/
theorem IsTransliteration.eq {name : Text} {table : UnitTable} {f g : Text → Text}
    (hf : IsTransliteration name table f) (hg : IsTransliteration name table g) (text : Text) :
    f text = g text := by
  by_cases hd : HasDirective name text
  · obtain ⟨front, argument, rest, hfirst, harg⟩ := hd.exists_firstAt
    have hfront := hfirst.not_isInfix (by simp)
    have htext : text = front ++ (name ++ ['(']) ++ argument ++ [')'] ++ rest := by
      rw [hfirst.1]
      simp
    have hlt : rest.length < text.length := by
      rw [htext]
      simp only [List.length_append, List.length_singleton]
      omega
    rw [htext, hf.directive front argument rest hfront harg,
      hg.directive front argument rest hfront harg, hf.eq hg rest]
  · rw [hf.unchanged text hd, hg.unchanged text hd]
  termination_by text.length

section Names

variable [RegexCompiler]

/-- A directive can have this name. -/
def IsDirectiveName (name : Text) : Prop :=
  Text.IsName name ∧ RegexCompiler.Accepts (expression name)

theorem isDirectiveName_iff_isName {name : Text}
    (accepted : Text.IsName name → RegexCompiler.Accepts (expression name)) :
    IsDirectiveName name ↔ Text.IsName name :=
  and_iff_left_of_imp accepted

theorem ofName_eq_ok_iff {name : Text} {table : UnitTable} :
    ofName name table = .ok transliterator ↔
      IsDirectiveName name ∧ transliterator = ⟨name, table⟩ := by
  rw [IsDirectiveName, ← Text.isIdentifier_iff, ofName]
  split
  · split
    · simp [*, eq_comm]
    · simp [*]
  · simp [*]

theorem ofName_eq_error_iff {name : Text} {table : UnitTable} {error : InvalidDirective} :
    ofName name table = .error error ↔ ¬ IsDirectiveName name ∧ error = ⟨name⟩ := by
  rw [IsDirectiveName, ← Text.isIdentifier_iff, ofName]
  split
  · split
    · simp [*]
    · simp [*, eq_comm]
  · simp [*, eq_comm]

/-- There are directives of every name whose regular expression is accepted, and of nothing else.
What replaces them is the only function that puts the romanised argument of the first directive in
its place and goes on behind it, until there is none. -/
theorem isTransliteration_iff_eq_transliterate (name : Text) (table : UnitTable)
    (accepted : Text.IsName name → RegexCompiler.Accepts (expression name)) :
    (Text.IsName name → ∃ transliterator, ofName name table = .ok transliterator ∧
      ∀ f, IsTransliteration name table f ↔ f = transliterator.transliterate) ∧
    ∀ error, ofName name table = .error error ↔ ¬ Text.IsName name ∧ error = ⟨name⟩ := by
  have hvalid := isDirectiveName_iff_isName accepted
  constructor
  · intro hname
    refine ⟨⟨name, table⟩, ofName_eq_ok_iff.2 ⟨hvalid.2 hname, rfl⟩, fun f => ?_⟩
    have hlaws := isTransliteration_transliterate hname.not_mem table
    constructor
    · intro hf
      exact funext (hf.eq hlaws)
    · rintro rfl
      exact hlaws
  · intro error
    rw [ofName_eq_error_iff, hvalid]

end Names

/-- A directive inside a longer name, the start of another one in its argument, and one that is not
closed. -/
theorem transliterate_nested_and_unclosed :
    (∃ transliterator,
      ofName "tr".toList (.ofUnits (.ofList [("ц".toList, "ts".toList)])) = .ok transliterator ∧
        transliterator.transliterate "tr str(tr(ц\nЦ) tr(ц".toList =
          "tr str(ts\nts tr(ц".toList) ∧
      ofName "2tr".toList (.ofUnits ∅) = .error ⟨"2tr".toList⟩ := by
  have hname : Text.IsName "tr".toList := Text.isIdentifier_iff.1 (by decide)
  obtain ⟨transliterator, hok, hlaws⟩ := (isTransliteration_iff_eq_transliterate "tr".toList
    (.ofUnits (.ofList [("ц".toList, "ts".toList)])) fun _ => by decide).1 hname
  refine ⟨⟨transliterator, hok, ?_⟩, ?_⟩
  · have h := (hlaws _).2 rfl
    have hbehind : ¬ HasDirective "tr".toList " tr(ц".toList := by
      rintro ⟨front, argument, rest, heq⟩
      have hmem : ')' ∈ " tr(ц".toList := by
        rw [heq]
        simp
      exact absurd hmem (by decide)
    have hroman : (UnitTable.ofUnits (.ofList [("ц".toList, "ts".toList)])).romanize
        "tr(ц\nЦ".toList = "tr(ts\nts".toList := by
      decide +kernel
    have hfirst := h.directive "tr s".toList "tr(ц\nЦ".toList " tr(ц".toList (by decide) (by decide)
    rw [hroman, h.unchanged _ hbehind] at hfirst
    exact hfirst
  · refine ((isTransliteration_iff_eq_transliterate _ _ fun _ => by decide).2 _).2 ⟨?_, rfl⟩
    rw [← Text.isIdentifier_iff]
    decide

end Transliterator

end Wordbridge
