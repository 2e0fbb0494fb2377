import Wordbridge.Charset

/-!
# Options of a compilation
-/

namespace Wordbridge

/-- What to do when the map file does not exist. -/
inductive MissingMapPolicy where
  | proceed
  | abort
  deriving DecidableEq, Repr

structure Options where
  map : Option String := none
  /-- The charset of the source, the output and the map file. -/
  charset : Charset := .utf8
  /-- Leaves the built-in name table out. -/
  ignoreBuiltin : Bool := false
  missingMap : MissingMapPolicy := .proceed
  directive : Text := "translit".toList
  deriving DecidableEq, Repr

end Wordbridge
