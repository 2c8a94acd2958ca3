import Formwork.Proofs.Files.Refusal
import Formwork.Proofs.Regeneration
import Formwork.Proofs.Session.Generating

/-!
# Failures that are reported, and one that is not

What goes wrong with the file of a document is reported as such: loading and saving answer a
`DocumentError`, a session notes it and answers that it failed, a watcher records it. The exception
is a path that no file can have, because it holds a null character or a surrogate that stands for no
byte. It is refused for what it is and not for what lies there, so the error is none of those that are
caught, and it gets through every layer: the session answers nothing, and the watcher keeps the record
of the call before (`failures_reported_iff`).
-/

set_option autoImplicit false

namespace Formwork

/-- Every failure but one is a report. -/
theorem StoreError.reported_iff {α : Type} {r : Except StoreError α} :
    (∀ e, r = .error e → ∃ d, e = .document d) ↔ ¬∃ flaw, r = .error (.nameless flaw) := by
  constructor
  · rintro reported ⟨flaw, nameless⟩
    obtain ⟨d, mismatch⟩ := reported _ nameless
    cases mismatch
  · intro named e failed
    cases e with
    | document d => exact ⟨d, rfl⟩
    | nameless flaw => exact absurd ⟨flaw, failed⟩ named

namespace Project

variable {t : FileTree} {path : Path}

theorem load_nameless_iff :
    (∃ flaw, load t path = .error (.nameless flaw)) ↔ path.isNameable = false := by
  constructor
  · rintro ⟨flaw, refused⟩
    exact Bool.eq_false_iff.2 fun named => load_ne_nameless named flaw refused
  · intro nameless
    obtain ⟨flaw, refused⟩ := FileTree.nameless_read_iff (t := t).2 nameless
    exact ⟨flaw, by rw [load, FileTree.readText, refused]⟩

/-- A document is loaded, or there is a report of why it is not. -/
theorem load_reported_iff : (∀ e, load t path = .error e → ∃ d, e = .document d) ↔
    path.isNameable = true := by
  rw [StoreError.reported_iff, load_nameless_iff, Bool.not_eq_false]

theorem save_nameless_iff (p : Project) :
    (∃ flaw, (p.save path t).1 = .error (.nameless flaw)) ↔ t.NamelessBeside path := by
  rw [← FileM.writeBeside_nameless_iff (s := p.encode), save, FileTree.Nameless]
  split
  next ran =>
    rw [ran]
    constructor <;> rintro ⟨_, ⟨⟩⟩
  next flaw _ ran =>
    rw [ran]
    exact iff_of_true ⟨flaw, rfl⟩ ⟨flaw, rfl⟩
  next e u other ran =>
    rw [ran]
    constructor
    · rintro ⟨_, ⟨⟩⟩
    · rintro ⟨flaw, nameless⟩
      exact absurd (Except.error.inj nameless) (other flaw)

/-- A document is saved, or there is a report of why it is not. -/
theorem save_reported_iff (p : Project) :
    (∀ e, (p.save path t).1 = .error e → ∃ d, e = .document d) ↔ ¬t.NamelessBeside path := by
  rw [StoreError.reported_iff, save_nameless_iff]

end Project

namespace Session

variable {s : Session} {t : FileTree}

theorem load_answers_iff {path : Text.Raw} :
    (∃ b, (s.load t path).1 = .ok b) ↔ path.isNameable = true := by
  rw [← Path.isNameable_ofText, ← Bool.not_eq_false, ← Project.load_nameless_iff (t := t)]
  cases loaded : Project.load t (.ofText path) with
  | ok p =>
    rw [s.load_of_accepted loaded]
    refine iff_of_true ⟨true, rfl⟩ ?_
    rintro ⟨_, ⟨⟩⟩
  | error e =>
    rw [load, loaded]
    cases e with
    | nameless flaw =>
      refine iff_of_false ?_ (not_not_intro ⟨flaw, rfl⟩)
      rintro ⟨_, ⟨⟩⟩
    | document d =>
      refine iff_of_true ⟨false, rfl⟩ ?_
      rintro ⟨_, ⟨⟩⟩

theorem save_answers_iff {path : Option Text.Raw} : (∃ b, (s.save t path).1.1 = .ok b) ↔
    ∀ file, (path.map Path.ofText <|> s.currentFile) = some file → ¬t.NamelessBeside file := by
  rw [save]
  split
  next missing => exact iff_of_true ⟨false, rfl⟩ (by rw [missing]; nofun)
  next target found =>
    have single : (∀ file, (path.map Path.ofText <|> s.currentFile) = some file →
        ¬t.NamelessBeside file) ↔ ¬t.NamelessBeside target := by
      rw [found]
      simp
    rw [single, ← Project.save_nameless_iff s.project]
    split
    next flaw _ ran =>
      refine iff_of_false nofun ?_
      rw [ran]
      exact not_not_intro ⟨flaw, rfl⟩
    next ran => exact iff_of_true ⟨false, rfl⟩ (by rw [ran]; nofun)
    next ran => exact iff_of_true ⟨true, rfl⟩ (by rw [ran]; nofun)

end Session

/-- A call of a watcher answers whether it has succeeded, and the record says the same. -/
inductive Watched.Recorded (r : Watched Bool) : Prop where
  | succeeded (answer : r.answer = .ok true) (record : r.watcher.lastError = none)
  | failed (answer : r.answer = .ok false) (e : RegenerationError)
    (record : r.watcher.lastError = some e.message)

namespace Watcher

variable {t : FileTree}

theorem attempt_nameless_iff (w : Watcher) : (∃ flaw, (w.attempt t).1 = .nameless flaw) ↔
    w.project.isNameable = false ∨
      (∃ p, Project.load t w.project = .ok p) ∧ t.NamelessInto w.output := by
  rw [← Project.load_nameless_iff (t := t)]
  cases loaded : Project.load t w.project with
  | error e =>
    rw [attempt, loaded]
    cases e with
    | document d => simp
    | nameless flaw => simp
  | ok p =>
    rw [← FileM.writeInto_nameless_iff (s := w.moduleText p), attempt_of_load loaded,
      FileTree.Nameless]
    split
    next ran => simp [ran]
    next ran => simp [ran]
    next ran => simp [ran]

/-- A call that is not recorded leaves the watcher as it was. -/
theorem regenerate_recorded_or (w : Watcher) :
    (w.regenerate t).Recorded ∧ (¬∃ flaw, (w.attempt t).1 = .nameless flaw) ∨
      ∃ flaw, (w.regenerate t).answer = .error (.nameless flaw) ∧ (w.regenerate t).watcher = w ∧
        (w.attempt t).1 = .nameless flaw := by
  rw [regenerate]
  split
  next flaw _ _ ran => exact .inr ⟨flaw, rfl, rfl, by rw [ran]⟩
  next ran => exact absurd (congrArg Prod.fst ran) (w.attempt_ne_number t _)
  next ran => exact .inl ⟨.succeeded rfl rfl, by rw [ran]; nofun⟩
  next ran => exact .inl ⟨.failed rfl _ rfl, by rw [ran]; nofun⟩

theorem regenerate_recorded_iff (w : Watcher) : (w.regenerate t).Recorded ↔
    w.project.isNameable = true ∧
      ((∃ p, Project.load t w.project = .ok p) → ¬t.NamelessInto w.output) := by
  have named : (¬∃ flaw, (w.attempt t).1 = .nameless flaw) ↔ w.project.isNameable = true ∧
      ((∃ p, Project.load t w.project = .ok p) → ¬t.NamelessInto w.output) := by
    rw [attempt_nameless_iff, not_or, Bool.not_eq_false, not_and]
  rw [← named]
  rcases w.regenerate_recorded_or (t := t) with
    ⟨recorded, named⟩ | ⟨flaw, answer, -, nameless⟩
  · exact iff_of_true recorded named
  · refine iff_of_false ?_ (not_not_intro ⟨flaw, nameless⟩)
    rintro (⟨answer', -⟩ | ⟨answer', -⟩)
    · cases answer.symm.trans answer'
    · cases answer.symm.trans answer'

end Watcher

/-- **What is reported.** At every layer every failure is, unless a path has no name and nothing that
keeps its directory from being made is found first. -/
theorem failures_reported_iff (t : FileTree) (path : Path) (p : Project) (s : Session)
    (name : Text.Raw) (target : Option Text.Raw) (w : Watcher) :
    ((∀ e, Project.load t path = .error e → ∃ d, e = .document d) ↔ path.isNameable = true) ∧
    ((∀ e, (p.save path t).1 = .error e → ∃ d, e = .document d) ↔ ¬t.NamelessBeside path) ∧
    ((∃ b, (s.load t name).1 = .ok b) ↔ name.isNameable = true) ∧
    ((∃ b, (s.save t target).1.1 = .ok b) ↔
      ∀ file, (target.map Path.ofText <|> s.currentFile) = some file → ¬t.NamelessBeside file) ∧
    ((w.regenerate t).Recorded ↔ w.project.isNameable = true ∧
      ((∃ q, Project.load t w.project = .ok q) → ¬t.NamelessInto w.output)) :=
  ⟨Project.load_reported_iff, p.save_reported_iff, Session.load_answers_iff,
    Session.save_answers_iff, w.regenerate_recorded_iff⟩

/-- A document that is there, and a path for its module that no file can have. A surrogate at the end
of a path is no better than a null character. -/
theorem failures_reported_iff_nul :
    let t : FileTree := { entries := [(⟨["p.json"]⟩, .file "{}".toUTF8)] }
    let w : Watcher := { project := .ofText "p.json", output := .ofText "out\x00.py" }
    let lone : Text.Raw := "p.json" ++ ⟨[.surrogate 0]⟩
    ¬(∀ e, Project.load t (.ofText "p\x00.json") = .error e → ∃ d, e = .document d) ∧
      ¬(∃ b, (({} : Session).load t "p\x00.json").1 = .ok b) ∧
      ¬(∃ b, (({} : Session).load t lone).1 = .ok b) ∧
      ¬(w.regenerate t).Recorded := by
  intro t w lone
  refine ⟨?_, ?_, ?_, ?_⟩
  · rw [Project.load_reported_iff]
    decide
  · rw [Session.load_answers_iff]
    decide
  · rw [Session.load_answers_iff]
    decide
  · have loaded : Project.load t w.project = .ok {} := rfl
    have above : t.isDirectory w.output.parent = true := rfl
    obtain ⟨-, passes, inside⟩ := FileTree.isDirectory_iff_open.1 above
    have nameless : t.NamelessInto w.output := ⟨by decide, .inr ⟨passes, inside.clear⟩⟩
    rw [Watcher.regenerate_recorded_iff]
    exact fun ⟨_, named⟩ => named ⟨{}, loaded⟩ nameless

end Formwork
