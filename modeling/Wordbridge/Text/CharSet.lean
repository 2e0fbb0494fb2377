import Wordbridge.Text

/-!
# Sets of characters

A set of characters given by its runs of consecutive numbers, as the
properties of characters are tabulated.
-/

namespace Wordbridge

/-- A set of characters: the first and the last number of each run. -/
abbrev CharSet := List (Nat × Nat)

def CharSet.contains (set : CharSet) (c : Char) : Bool :=
  set.any fun (first, last) => first ≤ c.toNat && c.toNat ≤ last

end Wordbridge
