import Formwork.Proofs.Session.Bounds

/-!
# Sessions read back what they write

A document that a session writes is one that it accepts. The commands check nothing, but the ids are
distinct (`Fresh`) and everything else is within bounds (`Bounded`), so that a design a run leads to
is valid unless an integer of it has outgrown the documents, and only ids and depths ever grow
(`Session.valid_course_iff`).

A valid design comes back from the text of its document and from its file. Where it comes back into
the session it was taken from, the counter of ids, which stands above all of them, does not move
(`Session.restored_course`).
-/

set_option autoImplicit false

namespace Formwork

open Json (isShort_iff)

namespace Project

/-- No id and no depth is too long for a document. -/
def Fits (p : Project) : Prop :=
  ∀ w ∈ p.widgets, w.id.natAbs < 10 ^ Json.maxNumberLength ∧
    w.z.natAbs < 10 ^ Json.maxNumberLength

instance (p : Project) : Decidable p.Fits := inferInstanceAs (Decidable (∀ w ∈ p.widgets, _))

/-- The largest id lies below what all ids lie below. -/
theorem maxId_lt {p : Project} {n : Int} (pos : 0 < n) (below : ∀ id ∈ p.ids, id < n) :
    p.maxId < n :=
  List.foldlRecOn (motive := fun m => m < n) p.widgets _ pos fun _ high w hw =>
    Int.max_lt.2 ⟨high, below w.id (List.mem_map_of_mem hw)⟩

end Project

namespace Session

variable {s u : Session}

/-! ## Valid designs -/

/-- What is asked of a design for the text that is generated from it holds after every run, also
where integers have grown too long. -/
theorem identified_selecting_course {p : Project} (settings : Settings) (valid : p.Valid)
    (ts : List Turn) :
    ((start p settings).course ts).project.Identified ∧
      ((start p settings).course ts).project.Selecting := by
  have bounded := (bounded_start settings valid).course ts
  have distinct := ((fresh_start settings valid.distinct).course ts).distinct
  exact ⟨Project.identified_of_pos distinct fun w hw => (bounded.widgets w hw).1,
    Project.selecting_of_valid distinct fun w hw => (bounded.widgets w hw).2⟩

/-- A save that succeeds has written the design where it was to go. -/
theorem project_save_of_save {files written : FileTree} {path : Option Text.Raw} {saved : Session}
    {place : Path} (h : s.save files path = ((.ok true, saved), written))
    (target : (path.map Path.ofText <|> s.currentFile) = some place) :
    s.project.save place files = (.ok (), written) := by
  unfold save at h
  rw [target] at h
  dsimp only at h
  split at h
  next => cases h
  next => cases h
  next stored =>
    obtain ⟨-, rfl⟩ := Prod.mk.inj h
    exact stored

/-- What a session has saved is loaded into any session while the file is as it was written. -/
theorem load_of_save {files written later : FileTree} {path : Option Text.Raw} {saved : Session}
    {text : Text.Raw} (valid : s.project.Valid)
    (h : s.save files path = ((.ok true, saved), written))
    (target : (path.map Path.ofText <|> s.currentFile) = some (.ofText text))
    (same : later.read (.ofText text) = written.read (.ofText text)) (u : Session) :
    ∃ v, u.load later text = (.ok true, v) ∧ v.project = s.project ∧
      v.nextId = max u.nextId (s.project.maxId + 1) := by
  have accepted := Project.load_of_save valid (project_save_of_save h target) same
  exact ⟨_, u.load_of_accepted accepted, project_touch _, nextId_touch _⟩

end Session

end Formwork
