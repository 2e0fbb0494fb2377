/-!
# Texts

A text is the list of its characters (Unicode scalar values). The words of a
lexicon, source files and the arguments of directives are texts. This module
has the operations that the others share:

* `Text.after?`: what follows a mark that the text starts with;
* `Text.cutAfter?`: the text cut after the first occurrence of a mark;
* `Text.cutOnLine?`: the same on one line, without the mark;
* `Text.eraseAll`: the text without the occurrences of a mark;
* `Text.byteLength`, `Text.dropBytes?`: positions counted in UTF-8 bytes.
-/

namespace Wordbridge

/-- A text is the list of its characters. -/
abbrev Text := List Char

namespace Text

def toStr (text : Text) : String :=
  String.ofList text

/-- What follows `mark`, if the text starts with it. -/
def after? (mark text : Text) : Option Text :=
  if mark.isPrefixOf text then some (text.drop mark.length) else none

theorem after?_eq_some_iff {mark text rest : Text} :
    after? mark text = some rest ↔ text = mark ++ rest := by
  unfold after?
  constructor
  · intro h
    split at h
    · rename_i hp
      obtain ⟨tail, rfl⟩ := List.isPrefixOf_iff_prefix.1 hp
      simpa using h
    · cases h
  · rintro rfl
    simp [List.isPrefixOf_iff_prefix]

theorem after?_eq_none_iff {mark text : Text} : after? mark text = none ↔ ¬ mark <+: text := by
  simp [after?, ← List.isPrefixOf_iff_prefix]

theorem length_of_after? {mark text rest : Text} (h : after? mark text = some rest) :
    text.length = mark.length + rest.length := by
  rw [after?_eq_some_iff.1 h, List.length_append]

/-- The text through the first occurrence of `mark`, and what follows it; `none` if `mark` does
not occur. -/
def cutAfter? (mark : Text) : Text → Option (Text × Text)
  | [] => (after? mark []).map fun rest => (mark, rest)
  | c :: text =>
    match after? mark (c :: text) with
    | some rest => some (mark, rest)
    | none => (cutAfter? mark text).map fun (front, rest) => (c :: front, rest)

/-- The text before the first occurrence of `mark`, and what follows that occurrence; `none` if
`mark` does not occur on the first line of the text. -/
def cutOnLine? (mark : Text) : Text → Option (Text × Text)
  | [] => (after? mark []).map fun rest => ([], rest)
  | c :: text =>
    match after? mark (c :: text) with
    | some rest => some ([], rest)
    | none =>
      if c = '\n' then none
      else (cutOnLine? mark text).map fun (front, rest) => (c :: front, rest)

theorem eq_append_of_cutOnLine? {mark text front rest : Text}
    (h : cutOnLine? mark text = some (front, rest)) : text = front ++ mark ++ rest := by
  induction text generalizing front with
  | nil =>
    simp only [cutOnLine?, Option.map_eq_some_iff] at h
    obtain ⟨r, hr, heq⟩ := h
    cases heq
    simpa using after?_eq_some_iff.1 hr
  | cons c text ih =>
    simp only [cutOnLine?] at h
    split at h
    · rename_i r hr
      cases h
      simpa using after?_eq_some_iff.1 hr
    · split at h
      · cases h
      · simp only [Option.map_eq_some_iff] at h
        obtain ⟨⟨front', rest'⟩, hc, heq⟩ := h
        cases heq
        simpa using ih hc

/-- The text without the occurrences of `mark`: the leftmost one is taken out first, and the search
goes on behind it. An empty mark takes nothing out. -/
def eraseAll (mark : Text) : Text → Text
  | [] => []
  | c :: text =>
    match _h : after? mark (c :: text) with
    | some rest => if mark = [] then c :: text else eraseAll mark rest
    | none => c :: eraseAll mark text
  termination_by text => text.length
  decreasing_by
    · have hl := length_of_after? _h
      have : 0 < mark.length := List.length_pos_iff.2 ‹_›
      simp only [List.length_cons] at hl ⊢
      omega
    · simp

/-- The number of bytes of the text in UTF-8. -/
def byteLength : Text → Nat
  | [] => 0
  | c :: text => c.utf8Size + byteLength text

/-- The text from byte `offset` on; `none` if that is beyond the end or inside a character. -/
def dropBytes? (offset : Nat) : Text → Option Text
  | [] => if offset = 0 then some [] else none
  | c :: text =>
    if offset = 0 then some (c :: text)
    else if c.utf8Size ≤ offset then dropBytes? (offset - c.utf8Size) text
    else none

def byteOrderMark : Char :=
  '\uFEFF'

def dropMark : Text → Text
  | [] => []
  | c :: text => if c = byteOrderMark then text else c :: text

def startsName (c : Char) : Bool :=
  c.isAlpha || c == '_'

/-- An ASCII identifier: a letter or underscore, then letters, digits and underscores. -/
def isIdentifier : Text → Bool
  | [] => false
  | c :: text => startsName c && text.all fun d => startsName d || d.isDigit

def isLatin (text : Text) : Bool :=
  text.all Char.isAlpha

end Text

end Wordbridge
