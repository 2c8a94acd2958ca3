import Formwork.Document.Store
import Formwork.Proofs.Document.RoundTrip
import Formwork.Proofs.Files.Changes
import Formwork.Proofs.Json.LineEnds

/-!
# Documents in files

A document is loaded from the bytes of its file and from nothing else. A valid project that has been
saved is loaded again as long as its file is as it was written (`Project.load_of_save`): the bytes
are those of the document, and the line ends of a document are unified already.

Saving a project changes no file but that of its path (`Project.of_save_ok`), and no file at all
where it fails (`Project.of_save_error`). Where a file lies already, at the end of a way without
files, it succeeds (`Project.exists_save`).
-/

set_option autoImplicit false

namespace Formwork.Project

variable {t u : FileTree} {path : Path} {bytes : ByteArray} {s : String}

theorem load_of_read (found : t.read path = .ok bytes) (text : Text.Utf8.decode bytes = .ok s) :
    load t path = (ofText (Text.unifyLines s)).mapError .document := by
  rw [load, FileTree.readText, found]
  simp only [text]

theorem load_congr (found : t.read path = .ok bytes) (found' : u.read path = .ok bytes) :
    load t path = load u path := by
  rw [load, load, FileTree.readText, FileTree.readText, found, found']

/-- Where a document is loaded, there is a file. -/
theorem exists_read_of_load {p : Project} (h : load t path = .ok p) :
    ∃ bytes, t.read path = .ok bytes := by
  cases found : t.read path with
  | ok bytes => exact ⟨bytes, rfl⟩
  | error e =>
    rw [load, FileTree.readText, found] at h
    cases e <;> cases h

theorem decode_toUTF8 (s : String) : Text.Utf8.decode s.toUTF8 = .ok s := by
  have valid : String.fromUTF8? s.toUTF8 = some s := by
    rw [String.fromUTF8?, String.toUTF8_eq_toByteArray, dif_pos s.isValidUTF8]
    rfl
  rw [Text.Utf8.decode, valid]

theorem valid_of_ofText {p : Project} (h : ofText s = .ok p) : p.Valid := by
  rw [ofText] at h
  split at h
  next accepted =>
    obtain rfl := Except.ok.inj h
    exact valid_of_decode accepted
  next => cases h

/-- What is loaded is valid. -/
theorem valid_of_load {p : Project} (h : load t path = .ok p) : p.Valid := by
  rw [load] at h
  split at h
  next => cases h
  next => cases h
  next text _ =>
    cases read : ofText text with
    | error e =>
      rw [read] at h
      cases h
    | ok q =>
      rw [read] at h
      obtain rfl := Except.ok.inj h
      exact valid_of_ofText read

/-- What has been saved is what the file holds. -/
theorem read_of_save {p : Project} (h : p.save path t = (.ok (), u)) :
    u.read path = .ok p.encode.toUTF8 := by
  rw [save] at h
  split at h
  next written =>
    obtain ⟨-, rfl⟩ := Prod.mk.inj h
    exact FileM.read_writeBeside written
  next => cases h
  next => cases h

/-- A text that is the document of a valid project is read as the project. -/
theorem ofText_encode {p : Project} (valid : p.Valid) : ofText p.encode = .ok p := by
  rw [ofText, decode_encode valid]

/-- A valid project is loaded from a file that holds its document. -/
theorem load_of_read_encode {p : Project} (valid : p.Valid)
    (found : t.read path = .ok p.encode.toUTF8) : load t path = .ok p := by
  rw [load_of_read found (decode_toUTF8 _), unifyLines_encode, ofText_encode valid]
  rfl

/-- A valid project is loaded from its file while that is as it was written. -/
theorem load_of_save {p : Project} (valid : p.Valid) {later : FileTree}
    (h : p.save path t = (.ok (), u)) (same : later.read path = u.read path) :
    load later path = .ok p :=
  load_of_read_encode valid (same.trans (read_of_save h))

/-- A save that succeeds changes the file that the path denotes, and no other. -/
theorem of_save_ok {p : Project} (h : p.save path t = (.ok (), u)) :
    path.isNameable = true ∧ t.Passes path ∧ t.Clear path.parent ∧
      u.locate path = .ok (t.place path) ∧ t.ChangesOnly (· = t.place path) u := by
  have writes := FileM.writes_writeBeside t path p.encode
  unfold save at h
  split at h
  next ran =>
    rw [ran] at writes
    cases h
    exact writes.of_ok
  next => cases h
  next => cases h

/-- A save that fails changes no file. -/
theorem of_save_error {p : Project} {e : StoreError} (h : p.save path t = (.error e, u)) :
    t.SameFiles u ∧ (path.isNameable = false ∨ ¬t.Passes path ∨ ¬t.Clear path.parent ∨
      u.entry? (t.place path) = some .directory) := by
  have writes := FileM.writes_writeBeside t path p.encode
  unfold save at h
  split at h
  next => cases h
  next ran =>
    rw [ran] at writes
    cases h
    exact writes.of_error
  next ran =>
    rw [ran] at writes
    cases h
    exact writes.of_error

/-- A project is saved over a file when no file is in the way and the path is let pass. -/
theorem exists_save (p : Project) (named : path.isNameable = true) (passes : t.Passes path)
    (clear : t.Clear path.parent) (file : t.bytes? (t.place path) = some bytes) :
    ∃ u, p.save path t = (.ok (), u) := by
  cases saved : p.save path t with
  | mk r u =>
    cases r with
    | ok a => exact ⟨u, rfl⟩
    | error e =>
      obtain ⟨same, nameless | barred | blocked | directory⟩ := of_save_error saved
      · cases named.symm.trans nameless
      · exact absurd passes barred
      · exact absurd clear blocked
      · rw [← same.bytes?_eq, FileTree.bytes?_of_directory directory] at file
        cases file

/-- Where a project is loaded, another can be saved. -/
theorem exists_save_of_load {p : Project} (loaded : load t path = .ok p) (q : Project) :
    ∃ u, q.save path t = (.ok (), u) := by
  obtain ⟨bytes, found⟩ := exists_read_of_load loaded
  obtain ⟨named, passes, inside, file⟩ := FileTree.read_eq_ok_iff.1 found
  exact q.exists_save named passes inside.clear file

end Formwork.Project
