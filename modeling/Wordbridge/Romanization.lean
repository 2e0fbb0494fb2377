import Std.Data.TreeMap
import Wordbridge.Text.LowerCase

/-!
# Romanisation

A unit table says how the letters of a script are written in Latin letters. A
unit is one character or several, such as a letter with a combining mark. To
romanise a text, it is put into lower case, and at each place the longest unit
that fits is replaced; a character that no unit covers is kept.
-/

namespace Wordbridge

/-- Units with their Latin spellings. -/
structure UnitTable where
  units : Std.TreeMap Text Text
  /-- The length of the longest unit. -/
  longest : Nat

namespace UnitTable

def ofUnits (units : Std.TreeMap Text Text) : UnitTable where
  units := units
  longest := units.keys.foldl (fun n unit => max n unit.length) 0

def size (table : UnitTable) : Nat :=
  table.units.size

/-- The longest unit of at most `length` characters that the text starts with, as its length and
its spelling. The empty unit does not count. -/
def longestUpTo? (table : UnitTable) (text : Text) : Nat → Option (Nat × Text)
  | 0 => none
  | length + 1 =>
    match table.units[text.take (length + 1)]? with
    | some spelling => some (length + 1, spelling)
    | none => longestUpTo? table text length

def longest? (table : UnitTable) (text : Text) : Option (Nat × Text) :=
  table.longestUpTo? text (min table.longest text.length)

theorem pos_of_longestUpTo? {table : UnitTable} {text spelling : Text} {bound length : Nat}
    (h : table.longestUpTo? text bound = some (length, spelling)) : 0 < length := by
  induction bound with
  | zero => cases h
  | succ bound ih =>
    simp only [longestUpTo?] at h
    split at h
    · cases h
      exact Nat.succ_pos _
    · exact ih h

/-- Replaces units from left to right in a text in lower case. -/
def spell (table : UnitTable) : Text → Text
  | [] => []
  | c :: text =>
    match _h : table.longest? (c :: text) with
    | some (length, spelling) => spelling ++ spell table ((c :: text).drop length)
    | none => c :: spell table text
  termination_by text => text.length
  decreasing_by
    · have := pos_of_longestUpTo? _h
      simp only [List.length_drop, List.length_cons]
      omega
    · simp

/-- The text in Latin letters, as far as the table has units for it. -/
def romanize (table : UnitTable) (text : Text) : Text :=
  table.spell (Text.lower text)

end UnitTable

end Wordbridge
