import Wordbridge.FileTree

/-!
# Reading and writing a file tree

A path that can be read or written enters a folder and ends there with a name
(`Enters`). So it leads to a location of the tree: what is read at the path is
the file at this location (`read_eq_ok_iff`), and a write puts a file there,
after which the path leads there still, and changes nothing else
(`write_eq_ok_iff`, `writable_insert`, `content?_insert`).
-/

namespace Wordbridge.FileTree

variable {tree : FileTree} {place place' : Place} {parts : List Text} {name : Text}
  {content : Bytes} {location : List Text} {path : String}

/-- The content of the file at a location. -/
def content? (tree : FileTree) (location : List Text) : Option Bytes :=
  match tree.nodes[location]? with
  | some (.file content) => some content
  | _ => none

theorem content?_eq_some_iff :
    tree.content? location = some content ↔ tree.nodes[location]? = some (.file content) := by
  unfold content?
  split
  · rename_i content' h
    rw [h, Option.some.injEq, Option.some.injEq, Node.file.injEq]
  · rename_i hne
    exact ⟨nofun, fun h => absurd h (hne content)⟩

theorem content?_insert (location' : List Text) :
    (⟨tree.nodes.insert location (.file content)⟩ : FileTree).content? location' =
      if location = location' then some content else tree.content? location' := by
  simp only [content?, Std.TreeMap.getElem?_insert, Std.LawfulEqCmp.compare_eq_iff_eq]
  by_cases h : location = location'
  · rw [if_pos h, if_pos h]
  · rw [if_neg h, if_neg h]

/-! ## Folders -/

/-- The file or folder of a name in a folder of the tree. -/
theorem node_eq_ok_iff {node : Node} :
    tree.node place name = .ok node ↔
      ∃ folder, place = .inside folder ∧ ¬nameLimit < Text.byteLength name ∧
        tree.nodes[folder ++ [name]]? = some node := by
  unfold FileTree.node
  split
  · rename_i hlong
    exact ⟨nofun, fun ⟨_, _, hname, _⟩ => absurd hlong hname⟩
  · rename_i hname
    cases place with
    | inside folder =>
      cases hnode : tree.nodes[folder ++ [name]]? with
      | none => simp [hnode]
      | some node' => simp [hname, hnode]
    | outside => simp

theorem writableAt_eq_ok_iff :
    tree.writableAt place name = .ok location ↔
      ∃ folder, place = .inside folder ∧ ¬nameLimit < Text.byteLength name ∧
        location = folder ++ [name] ∧ tree.nodes[location]? ≠ some .folder := by
  unfold writableAt FileTree.node
  by_cases hname : nameLimit < Text.byteLength name
  · cases place <;> simp [hname]
  · cases place with
    | inside folder =>
      cases hnode : tree.nodes[folder ++ [name]]? with
      | none => grind
      | some node => cases node <;> grind
    | outside => simp [hname]

/-! ## Walking -/

/-- The last step of a walk starts in the folder that the steps before it lead to. -/
theorem walk_concat (parts : List Text) (name : Text) :
    tree.walk place (parts ++ [name]) =
      match tree.walk place parts with
      | .error error => .error error
      | .ok (.file _) => .error .notFolder
      | .ok (.folder place') => tree.walk place' [name] := by
  induction parts generalizing place with
  | nil => rfl
  | cons part parts ih =>
    rw [List.cons_append, walk, walk]
    split
    · exact ih
    · split
      · exact ih
      · cases tree.node place part with
        | error error => rfl
        | ok node =>
          cases node with
          | folder => exact ih
          | file content => by_cases h : parts = [] <;> simp [h]

/-- A step to a file is a step by its name. -/
theorem walk_singleton_eq_file_iff :
    tree.walk place [name] = .ok (.file content) ↔
      name ≠ ['.'] ∧ name ≠ ['.', '.'] ∧ tree.node place name = .ok (.file content) := by
  rw [walk]
  split
  · rename_i hdot
    simp [walk, hdot]
  · rename_i hdot
    split
    · rename_i hdots
      simp [walk, hdots]
    · rename_i hdots
      cases tree.node place name with
      | error error => simp
      | ok node => cases node <;> simp [walk, hdot, hdots]

/-- Where there is no folder, a file can be put without standing in the way of a walk. -/
theorem walk_insert (hlocation : tree.nodes[location]? ≠ some .folder)
    (hwalk : tree.walk place parts = .ok (.folder place')) :
    (⟨tree.nodes.insert location (.file content)⟩ : FileTree).walk place parts =
      .ok (.folder place') := by
  induction parts generalizing place with
  | nil => exact hwalk
  | cons part parts ih =>
    rw [walk] at hwalk ⊢
    split at hwalk
    · rename_i hdot
      rw [if_pos hdot]
      exact ih hwalk
    · rename_i hdot
      rw [if_neg hdot]
      split at hwalk
      · rename_i hdots
        rw [if_pos hdots]
        exact ih hwalk
      · rename_i hdots
        rw [if_neg hdots]
        split at hwalk
        · cases hwalk
        · rename_i hnode
          obtain ⟨folder, hplace, hname, hfolder⟩ := node_eq_ok_iff.1 hnode
          have hne : location ≠ folder ++ [part] := fun h => hlocation (h ▸ hfolder)
          have hnode' : (⟨tree.nodes.insert location (.file content)⟩ : FileTree).node place part =
              .ok .folder := by
            refine node_eq_ok_iff.2 ⟨folder, hplace, hname, ?_⟩
            rw [Std.TreeMap.getElem?_insert, if_neg (by simpa using hne), hfolder]
          rw [hnode']
          exact ih hwalk
        · split at hwalk <;> cases hwalk

/-! ## Paths -/

/-- A path enters a folder and ends there with a name. -/
inductive Enters (tree : FileTree) (path : String) : Place → Text → Prop
  | intro {route : Route} {parts : List Text} {place : Place} {name : Text}
      (hroute : FileTree.route path = .ok route) (hslash : route.endsWithSlash = false)
      (hparts : route.parts = parts ++ [name]) (hdot : name ≠ ['.']) (hdots : name ≠ ['.', '.'])
      (hwalk : tree.walk route.start parts = .ok (.folder place)) :
      Enters tree path place name

theorem locate_eq_file_iff :
    tree.locate path = .ok (.file content) ↔
      ∃ place name, Enters tree path place name ∧ tree.node place name = .ok (.file content) := by
  constructor
  · intro h
    unfold locate at h
    cases hroute : route path with
    | error error => rw [hroute] at h; cases h
    | ok route =>
      rw [hroute] at h
      change tree.walk _ _ = _ at h
      split at h
      · rw [walk_concat] at h
        split at h <;> simp [walk] at h
      · rename_i hslash
        cases hlast : route.parts.getLast? with
        | none =>
          rw [List.getLast?_eq_none_iff.1 hlast] at h
          cases h
        | some name =>
          obtain ⟨parts, hparts⟩ := List.getLast?_eq_some_iff.1 hlast
          rw [hparts, walk_concat] at h
          split at h
          · cases h
          · cases h
          · rename_i hwalk
            obtain ⟨hdot, hdots, hnode⟩ := walk_singleton_eq_file_iff.1 h
            exact ⟨_, name, .intro hroute (by simpa using hslash) hparts hdot hdots hwalk, hnode⟩
  · rintro ⟨place, name, ⟨hroute, hslash, hparts, hdot, hdots, hwalk⟩, hnode⟩
    simp only [locate, hroute, bind, Except.bind, hslash, hparts, Bool.false_eq_true, if_false]
    rw [walk_concat, hwalk]
    exact walk_singleton_eq_file_iff.2 ⟨hdot, hdots, hnode⟩

theorem writable_eq_ok_iff :
    tree.writable path = .ok location ↔
      ∃ place name, Enters tree path place name ∧ tree.writableAt place name = .ok location := by
  constructor
  · intro h
    unfold writable at h
    cases hroute : route path with
    | error error => rw [hroute] at h; cases h
    | ok route =>
      simp only [hroute, bind, Except.bind] at h
      split at h
      · cases h
      · rename_i name hlast
        obtain ⟨parts, hparts⟩ := List.getLast?_eq_some_iff.1 hlast
        rw [hparts, List.dropLast_concat] at h
        split at h
        · split at h <;> cases h
        · rename_i hname
          simp only [Bool.or_eq_true, decide_eq_true_eq, not_or] at hname
          split at h
          · cases h
          · rename_i target hwalk
            split at h
            · cases h
            · split at h
              · cases h
              · rename_i hslash
                exact ⟨_, name, .intro hroute (by simpa using hslash) hparts hname.1 hname.2 hwalk,
                  h⟩
  · rintro ⟨place, name, ⟨hroute, hslash, hparts, hdot, hdots, hwalk⟩, hat⟩
    simp [writable, hroute, bind, Except.bind, hslash, hparts, hdot, hdots, hwalk, hat]

theorem read_eq_ok_iff_locate : tree.read path = .ok content ↔ tree.locate path = .ok (.file content) := by
  unfold read
  split <;> simp_all

/-- What is read at a path is the file at its location. -/
theorem read_eq_ok_iff :
    tree.read path = .ok content ↔
      ∃ location, tree.writable path = .ok location ∧ tree.content? location = some content := by
  rw [read_eq_ok_iff_locate, locate_eq_file_iff]
  simp only [writable_eq_ok_iff, content?_eq_some_iff]
  constructor
  · rintro ⟨place, name, henters, hnode⟩
    obtain ⟨folder, hplace, hname, hfile⟩ := node_eq_ok_iff.1 hnode
    refine ⟨folder ++ [name], ⟨place, name, henters, ?_⟩, hfile⟩
    exact writableAt_eq_ok_iff.2 ⟨folder, hplace, hname, rfl, by rw [hfile]; nofun⟩
  · rintro ⟨location, ⟨place, name, henters, hat⟩, hfile⟩
    obtain ⟨folder, hplace, hname, rfl, -⟩ := writableAt_eq_ok_iff.1 hat
    exact ⟨place, name, henters, node_eq_ok_iff.2 ⟨folder, hplace, hname, hfile⟩⟩

/-- A path leads to the same location when a file has been written there. -/
theorem writable_insert (h : tree.writable path = .ok location) :
    (⟨tree.nodes.insert location (.file content)⟩ : FileTree).writable path = .ok location := by
  obtain ⟨place, name, ⟨hroute, hslash, hparts, hdot, hdots, hwalk⟩, hat⟩ := writable_eq_ok_iff.1 h
  obtain ⟨folder, hplace, hname, hlocation, hfolder⟩ := writableAt_eq_ok_iff.1 hat
  refine writable_eq_ok_iff.2 ⟨place, name, ?_, ?_⟩
  · exact .intro hroute hslash hparts hdot hdots (walk_insert hfolder hwalk)
  · refine writableAt_eq_ok_iff.2 ⟨folder, hplace, hname, hlocation, ?_⟩
    rw [Std.TreeMap.getElem?_insert_self]
    nofun

theorem write_eq_ok_iff {tree' : FileTree} :
    tree.write path content = .ok tree' ↔
      ∃ location, tree.writable path = .ok location ∧
        tree' = ⟨tree.nodes.insert location (.file content)⟩ := by
  unfold write
  cases tree.writable path with
  | error error => simp [bind, Except.bind]
  | ok location => simp [bind, Except.bind, pure, Except.pure, eq_comm]

end Wordbridge.FileTree
