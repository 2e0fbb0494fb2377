import Std.Data.TreeMap
import Wordbridge.FileAccess

/-!
# File trees

A file system in memory: the files and folders below a current folder. Paths
are walked from there, part by part, with `.` for the folder itself and `..`
for the one around it; what lies around the current folder is not known, and
no file is found there.
-/

namespace Wordbridge

inductive Node where
  | file (content : Bytes)
  | folder
  deriving DecidableEq, Repr

/-- The files and folders below the current folder, by the names on the way to them. -/
structure FileTree where
  nodes : Std.TreeMap (List Text) Node := ∅

namespace FileTree

def nameLimit : Nat := 255

/-- The length in bytes that a path has to stay below. -/
def pathLimit : Nat := 4096

/-- The folder that a walk has reached: one of the tree, or one around it. -/
inductive Place where
  | inside (location : List Text)
  | outside
  deriving DecidableEq, Repr

inductive Target where
  | file (content : Bytes)
  | folder (place : Place)

def Place.parent : Place → Place
  | .inside [] => .outside
  | .inside location => .inside location.dropLast
  | .outside => .outside

def Place.child (place : Place) (name : Text) : Place :=
  match place with
  | .inside location => .inside (location ++ [name])
  | .outside => .outside

def node (tree : FileTree) (place : Place) (name : Text) : Except FileError Node :=
  if nameLimit < Text.byteLength name then .error .nameTooLong
  else
    match place with
    | .inside location =>
      match tree.nodes[location ++ [name]]? with
      | some node => .ok node
      | none => .error .notFound
    | .outside => .error .notFound

def walk (tree : FileTree) (place : Place) : List Text → Except FileError Target
  | [] => .ok (.folder place)
  | part :: parts =>
    if part = ['.'] then walk tree place parts
    else if part = ['.', '.'] then walk tree place.parent parts
    else
      match tree.node place part with
      | .error error => .error error
      | .ok .folder => walk tree (place.child part) parts
      | .ok (.file content) => if parts = [] then .ok (.file content) else .error .notFolder

/-- A path taken apart: where it starts, its parts, and whether it ends with a slash. -/
structure Route where
  start : Place
  parts : List Text
  endsWithSlash : Bool

/-- Takes a path apart, or says why no file system can follow it. -/
def route (path : String) : Except FileError Route :=
  let text := path.toList
  if '\x00' ∈ text then .error .nulInPath
  else if text = [] then .error .notFound
  else if pathLimit ≤ Text.byteLength text then .error .nameTooLong
  else
    .ok {
      start := if text.head? = some '/' then .outside else .inside []
      parts := (text.splitOn '/').filter (· ≠ [])
      endsWithSlash := text.getLast? = some '/' }

/-- What a path leads to. Behind a slash at its end there has to be a folder. -/
def locate (tree : FileTree) (path : String) : Except FileError Target := do
  let route ← route path
  tree.walk route.start (if route.endsWithSlash then route.parts ++ [['.']] else route.parts)

def read (tree : FileTree) (path : String) : Except FileError Bytes :=
  match tree.locate path with
  | .error error => .error error
  | .ok (.folder _) => .error .isFolder
  | .ok (.file content) => .ok content

def isFile (tree : FileTree) (path : String) : Bool :=
  match tree.locate path with
  | .ok (.file _) => true
  | _ => false

def writableAt (tree : FileTree) (place : Place) (name : Text) : Except FileError (List Text) :=
  match place, tree.node place name with
  | _, .ok .folder => .error .isFolder
  | .inside location, .ok (.file _) | .inside location, .error .notFound => .ok (location ++ [name])
  | .outside, .ok (.file _) => .error .notFound
  | _, .error error => .error error

/-- Where the file at a path is written. It may be new, but its folder has to be there. -/
def writable (tree : FileTree) (path : String) : Except FileError (List Text) := do
  let route ← route path
  match route.parts.getLast? with
  | none => .error .isFolder
  | some name =>
    if name = ['.'] || name = ['.', '.'] then
      let _ ← tree.walk route.start route.parts
      .error .isFolder
    else
      match ← tree.walk route.start route.parts.dropLast with
      | .file _ => .error .notFolder
      | .folder place => if route.endsWithSlash then .error .isFolder else tree.writableAt place name

def write (tree : FileTree) (path : String) (content : Bytes) : Except FileError FileTree := do
  let location ← tree.writable path
  return ⟨tree.nodes.insert location (.file content)⟩

/-- Adds a node with the folders around it, which need not be there yet. -/
def add (tree : FileTree) (path : String) (node : Node) : FileTree :=
  let parts := (path.toList.splitOn '/').filter fun part => part ≠ [] && part ≠ ['.']
  let folders := (List.range (parts.length - 1)).map fun n => parts.take (n + 1)
  let nodes := folders.foldl (fun nodes location => nodes.insertIfNew location .folder) tree.nodes
  ⟨nodes.insert parts node⟩

def pathOf (location : List Text) : String :=
  Text.toStr (List.intercalate ['/'] location)

/-- The files that are new since `before`, or have other contents. -/
def changes (before after : FileTree) : List (String × Bytes) :=
  after.nodes.toList.filterMap fun (location, node) =>
    match node with
    | .file content =>
      if before.nodes[location]? = some node then none else some (pathOf location, content)
    | .folder => none

instance : FileAccess (StateM FileTree) where
  read path := do return (← get).read path
  isFile path := do return (← get).isFile path
  write path content := do
    match (← get).write path content with
    | .error error => return .error error
    | .ok tree =>
      set tree
      return .ok ()

end FileTree

end Wordbridge
