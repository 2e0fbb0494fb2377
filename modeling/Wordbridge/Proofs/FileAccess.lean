import Wordbridge.Proofs.FileTree

/-!
# File systems as states

What a file system with states `σ` promises (`LawfulFileAccess`): files are at
locations, and paths lead to locations. Reading changes nothing and gives the
content at the location of a path. A write that fails changes nothing; one that
succeeds puts its bytes at the location of its path and changes no other
(`Written`). A `FileTree` keeps these promises.
-/

namespace Wordbridge

variable {σ α β : Type}

/-- What an action gives on these files. -/
def valueAt (files : σ) (action : StateM σ α) : α :=
  (action.run files).1

/-- An action that leaves the files as they are. -/
def ReadOnly (action : StateM σ α) : Prop :=
  ∀ files, (action.run files).2 = files

@[simp]
theorem valueAt_pure (files : σ) (a : α) : valueAt files (pure a) = a := rfl

/-- The second of two actions runs on the files that the first one leaves. -/
theorem valueAt_bind (files : σ) (action : StateM σ α) (next : α → StateM σ β) :
    valueAt files (action >>= next) = valueAt (action.run files).2 (next (valueAt files action)) :=
  rfl

namespace ReadOnly

variable {action : StateM σ α} {next : α → StateM σ β}

theorem pure (a : α) : ReadOnly (Pure.pure a : StateM σ α) := fun _ => rfl

theorem run_eq (h : ReadOnly action) (files : σ) : action.run files = (valueAt files action, files) :=
  Prod.ext rfl (h files)

theorem bind (h : ReadOnly action) (hnext : ∀ a, ReadOnly (next a)) : ReadOnly (action >>= next) := by
  intro files
  rw [StateT.run_bind, h.run_eq]
  exact hnext _ files

theorem valueAt_bind (h : ReadOnly action) (files : σ) :
    valueAt files (action >>= next) = valueAt files (next (valueAt files action)) := by
  rw [valueAt, StateT.run_bind, h.run_eq]
  rfl

end ReadOnly

/-- Where the files of a file system are. -/
class FileLayout (σ : Type) where
  /-- The places that can hold a file. -/
  Location : Type
  /-- The content of the file at a location. -/
  content? : σ → Location → Option Bytes
  /-- The path leads to the location. -/
  Leads : σ → String → Location → Prop

/-- From the one state to the other, the bytes are written to the file at the path, and no other
file changes. -/
def Written [FileLayout σ] (before : σ) (path : String) (bytes : Bytes) (after : σ) : Prop :=
  ∃ location : FileLayout.Location σ,
    FileLayout.Leads before path location ∧ FileLayout.Leads after path location ∧
    FileLayout.content? after location = some bytes ∧
    ∀ other, other ≠ location → FileLayout.content? after other = FileLayout.content? before other

/-- A file system: what reading and writing do. -/
class LawfulFileAccess (σ : Type) [FileAccess (StateM σ)] [FileLayout σ] : Prop where
  readOnly_read (path : String) :
    ReadOnly (FileAccess.read path : StateM σ (Except FileError Bytes))
  readOnly_isFile (path : String) : ReadOnly (FileAccess.isFile path : StateM σ Bool)
  /-- What is read is the content at the location of the path. -/
  exists_content? {files : σ} {path : String} {bytes : Bytes} :
    valueAt files (FileAccess.read path) = .ok bytes →
      ∃ location, FileLayout.Leads files path location ∧
        FileLayout.content? files location = some bytes
  /-- A write that fails changes nothing. -/
  write_error {before after : σ} {path : String} {bytes : Bytes} {error : FileError} :
    (FileAccess.write path bytes : StateM σ _).run before = (.error error, after) → after = before
  write_ok {before after : σ} {path : String} {bytes : Bytes} :
    (FileAccess.write path bytes : StateM σ _).run before = (.ok (), after) →
      Written before path bytes after

theorem FileTree.run_write (tree : FileTree) (path : String) (bytes : Bytes) :
    (FileAccess.write path bytes : StateM FileTree _).run tree =
      match tree.write path bytes with
      | .error error => (.error error, tree)
      | .ok tree' => (.ok (), tree') := by
  simp only [FileAccess.write, StateT.run_bind, StateT.run_get, pure_bind]
  cases tree.write path bytes <;> rfl

/-- In a file tree, a path leads to the location where its file is or can be written. -/
instance FileTree.fileLayout : FileLayout FileTree where
  Location := List Text
  content? := FileTree.content?
  Leads tree path location := tree.writable path = .ok location

instance FileTree.lawfulFileAccess : LawfulFileAccess FileTree where
  readOnly_read _ _ := rfl
  readOnly_isFile _ _ := rfl
  exists_content? := FileTree.read_eq_ok_iff.1
  write_error {before after path bytes error} h := by
    rw [FileTree.run_write] at h
    cases hwrite : before.write path bytes with
    | error error' =>
      rw [hwrite] at h
      exact (congrArg Prod.snd h).symm
    | ok tree =>
      rw [hwrite] at h
      cases congrArg Prod.fst h
  write_ok {before after path bytes} h := by
    rw [FileTree.run_write] at h
    cases hwrite : before.write path bytes with
    | error error =>
      rw [hwrite] at h
      cases congrArg Prod.fst h
    | ok tree =>
      rw [hwrite] at h
      obtain rfl : tree = after := congrArg Prod.snd h
      obtain ⟨location, hpath, rfl⟩ := FileTree.write_eq_ok_iff.1 hwrite
      refine ⟨location, hpath, FileTree.writable_insert hpath, ?_, fun other hne => ?_⟩
      · exact (FileTree.content?_insert location).trans (if_pos rfl)
      · exact (FileTree.content?_insert other).trans (if_neg hne.symm)

end Wordbridge
