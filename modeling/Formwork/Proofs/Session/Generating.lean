import Formwork.Proofs.Document.Store
import Formwork.Proofs.Source.NumberFault
import Formwork.Session.Command

/-!
# Generating after a change

The commands that change a design end by generating its module where that is wanted. That leaves
everything but the text as it is (`exists_touch`), also when it fails, and where it is
wanted it fails exactly for a design with a number that cannot be written (`fst_touch_eq_ok`,
`touched_of_unwritten`).
-/

set_option autoImplicit false

namespace Formwork.Session

variable {s s' t : Session}

/-- Generating changes the text at most, whether or not it succeeds. -/
theorem exists_generate (s : Session) : ∃ text, s.generate.2 = { s with generated := text } := by
  unfold generate
  split
  next => exact ⟨s.generated, rfl⟩
  next text _ => exact ⟨text, rfl⟩

theorem exists_touch (s : Session) : ∃ text, s.touch.2 = { s with generated := text } := by
  unfold touch
  split
  next => exact exists_generate s
  next => exact ⟨s.generated, rfl⟩

theorem snd_touched {α : Type} (s : Session) (answer : α) : (s.touched answer).2 = s.touch.2 := rfl

theorem project_touch (s : Session) : s.touch.2.project = s.project := by
  obtain ⟨text, same⟩ := exists_touch s
  rw [same]

theorem nextId_touch (s : Session) : s.touch.2.nextId = s.nextId := by
  obtain ⟨text, same⟩ := exists_touch s
  rw [same]

theorem clipboard_touch (s : Session) : s.touch.2.clipboard = s.clipboard := by
  obtain ⟨text, same⟩ := exists_touch s
  rw [same]

theorem selected_touch (s : Session) : s.touch.2.selected = s.selected := by
  obtain ⟨text, same⟩ := exists_touch s
  rw [same]

theorem selected_generate (s : Session) : s.generate.2.selected = s.selected := by
  obtain ⟨text, same⟩ := exists_generate s
  rw [same]

/-- What is generated, if it is, is the module of the design. -/
theorem generated_generate (done : t.generate = (.ok (), s')) :
    s' = { t with generated := t.project.generate t.format t.comments } := by
  unfold generate at done
  cases checked : t.project.checkedGenerate t.format t.comments with
  | error e =>
    rw [checked] at done
    cases done
  | ok text =>
    rw [checked] at done
    rw [← Project.checkedGenerate_eq_ok checked]
    exact (Prod.mk.inj done).2.symm

/-! ## Where it succeeds -/

theorem generate_eq_ok (written : s.project.checkNumbers s.comments = .ok ()) :
    s.generate = (.ok (), { s with generated := s.project.generate s.format s.comments }) := by
  unfold generate Project.checkedGenerate
  rw [written]
  rfl

theorem fst_touch_eq_ok (written : s.project.checkNumbers s.comments = .ok ()) :
    s.touch.1 = .ok () := by
  unfold touch
  split
  next => rw [generate_eq_ok written]
  next => rfl

theorem touched_eq_ok {α : Type} (written : s.project.checkNumbers s.comments = .ok ())
    (answer : α) : s.touched answer = (.ok answer, s.touch.2) := by
  unfold touched
  rw [fst_touch_eq_ok written]
  rfl

theorem load_of_accepted {files : FileTree} {path : Text.Raw} {p : Project}
    (accepted : Project.load files (.ofText path) = .ok p) : s.load files path =
      (.ok true, ({ s.replace p with currentFile := some (.ofText path) }.note
        ("Loaded " ++ path.text)).touch.2) := by
  have written : p.checkNumbers s.comments = .ok () :=
    Project.checkNumbers_of_valid (Project.valid_of_load accepted)
  rw [load, accepted]
  exact touched_eq_ok written true

/-- Generating after a change fails for a number that cannot be written, and for nothing else. -/
theorem exists_of_touch_error {f : Fault} (failed : s.touch.1 = .error f) :
    ∃ e, f = .number e ∧ s.project.checkNumbers s.comments = .error e := by
  cases checked : s.project.checkNumbers s.comments with
  | ok =>
    rw [fst_touch_eq_ok checked] at failed
    cases failed
  | error e =>
    refine ⟨e, ?_, rfl⟩
    unfold touch generate Project.checkedGenerate at failed
    rw [checked] at failed
    split at failed
    next => exact (Except.error.inj failed).symm
    next => cases failed

/-- With a number that cannot be written, what was to be generated after a change is an error. -/
theorem touched_of_unwritten {α : Type} {n : Source.NumberFault} (auto : s.autoGenerate = true)
    (unwritten : s.project.checkNumbers s.comments = .error n) (answer : α) :
    (s.touched answer).1 = .error (.number n) := by
  have drawn : s.project.widgets.isEmpty = false := by
    by_contra empty
    have widgets := List.isEmpty_iff.1 (Bool.eq_true_of_not_eq_false empty)
    have written : s.project.checkNumbers s.comments = .ok () := by
      rw [Project.checkNumbers_eq_ok_iff, widgets]
      exact fun w mem => absurd mem List.not_mem_nil
    rw [written] at unwritten
    cases unwritten
  have wanted : (s.autoGenerate && !s.project.widgets.isEmpty) = true := by
    rw [auto, drawn]
    rfl
  unfold touched touch generate Project.checkedGenerate
  rw [if_pos wanted, unwritten]
  rfl

end Formwork.Session
