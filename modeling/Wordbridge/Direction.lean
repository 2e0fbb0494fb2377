import Wordbridge.Text

/-!
# Directions

A script is compiled from the dialect to Lua (forward) or from Lua to the
dialect (reverse), and the extension of its file says which it is.
-/

namespace Wordbridge

inductive Direction where
  | forward
  | reverse
  deriving DecidableEq, Repr

/-- The parts of a path between slashes that name something: empty parts do not count, nor does
`.` behind the first place. -/
def pathParts (path : String) : List Text :=
  match path.toList.splitOn '/' with
  | [] => []
  | first :: others =>
    (if first = [] then [] else [first]) ++ others.filter fun part => part ≠ [] && part ≠ ['.']

/-- The extension of the file that a path names: what follows the last dot of its name. A dot at
the start of the name begins no extension. -/
def extension? (path : String) : Option Text := do
  let name ← (pathParts path).getLast?
  if name = ['.'] || name = ['.', '.'] then none
  else
    let after := name.reverse.takeWhile (· ≠ '.')
    if after.length + 1 < name.length then some after.reverse else none

namespace Direction

def reversed : Direction → Direction
  | .forward => .reverse
  | .reverse => .forward

def ofExtension? (extension : Text) : Option Direction :=
  if extension = "blya".toList then some .forward
  else if extension = "lua".toList then some .reverse
  else none

def ofPath? (path : String) : Option Direction :=
  (extension? path).bind ofExtension?

end Direction

end Wordbridge
