import Formwork.Proofs.Files.Changes
import Formwork.Proofs.Watcher

/-!
# The books of a watcher

A watcher counts the modules that it has written and remembers why the last call failed, if it did.
A call fails for a document that is missing or refused, or for an output that cannot be written, and
in each case before any file has been touched (`Watcher.regenerate_cases`). What is said of the books
after a run of edits and calls is `Vigil.Kept`; every edit and every call keeps it, so it holds
wherever a run leads (`Vigil.books_kept`).

The document is edited at its place, by whatever path, and may be deleted. Calls are not tied to
edits: a document may change any number of times between two of them.
-/

set_option autoImplicit false

namespace Formwork

namespace FileTree

variable {t : FileTree} {l : Location} {bytes : Option ByteArray}

/-- The tree after a file has been given other bytes, or has been deleted. A directory stays. -/
def edit (t : FileTree) (l : Location) (bytes : Option ByteArray) : FileTree :=
  match t.entry? l, bytes with
  | some .directory, _ => t
  | _, some b => t.put l (.file b)
  | _, none => t.remove l

theorem changesOnly_edit : t.ChangesOnly (· = l) (t.edit l bytes) := by
  unfold edit
  split
  next => exact (SameFiles.refl t).changesOnly
  next free => exact changesOnly_put free
  next free => exact changesOnly_remove free

end FileTree

/-! ## One call -/

namespace Project

theorem load_ne_nameless {t : FileTree} {path : Path} (named : path.isNameable = true)
    (flaw : Text.Flaw) : load t path ≠ .error (.nameless flaw) := by
  intro refused
  unfold load at refused
  split at refused
  next failed =>
    unfold FileTree.readText at failed
    split at failed
    next unread =>
      cases failed
      cases named.symm.trans (FileTree.isNameable_of_read unread)
    next => split at failed <;> cases failed
  next => cases refused
  next text _ => cases read : ofText text <;> rw [read] at refused <;> cases refused

end Project

namespace Watcher

variable {v w : Watcher} {t : FileTree}

theorem SameSettings.moduleText (h : v.SameSettings w) (p : Project) :
    v.moduleText p = w.moduleText p := by
  rw [Watcher.moduleText, Watcher.moduleText, h.format, h.comments]

theorem ground_attempt (w : Watcher) (t : FileTree) : (w.attempt t).2.1.ground = t.ground := by
  cases loaded : Project.load t w.project with
  | error e => cases e <;> simp only [attempt, loaded]
  | ok p =>
    have writes := FileM.writes_writeInto t w.output (w.moduleText p)
    rw [attempt_of_load loaded]
    generalize (FileM.writeInto w.output (w.moduleText p)).run.run t = ran at writes ⊢
    obtain ⟨result, u⟩ := ran
    rcases result with (_ | _) | _ <;> exact writes.ground

theorem attempt_cases (w : Watcher) (t : FileTree) (project_named : w.project.isNameable = true)
    (output_named : w.output.isNameable = true) :
    (∃ p u ns, w.attempt t = (.succeeded p, u, ns) ∧ Project.load t w.project = .ok p ∧
      u.read w.output = .ok (w.moduleText p).toUTF8) ∨
    ∃ e u ns, w.attempt t = (.failed e, u, ns) ∧ t.SameFiles u := by
  cases loaded : Project.load t w.project with
  | error refused =>
    cases refused with
    | nameless flaw => exact absurd loaded (Project.load_ne_nameless project_named flaw)
    | document e =>
      refine .inr ⟨.document e, t, e.notices, ?_, .refl t⟩
      rw [attempt, loaded]
  | ok p =>
    have writes := FileM.writes_writeInto t w.output (w.moduleText p)
    rw [attempt_of_load loaded]
    split
    next u ran => exact .inl ⟨p, u, _, rfl, rfl, FileM.read_writeInto ran⟩
    next u ran =>
      rw [ran] at writes
      cases writes with
      | nameless _ nameless => cases output_named.symm.trans nameless
    next u ran =>
      rw [ran] at writes
      exact .inr ⟨_, _, _, rfl, writes.of_error.1⟩

/-- What comes of a call: the module is written, or the failure is recorded and no file differs. -/
theorem regenerate_cases (w : Watcher) (t : FileTree)
    (project_named : w.project.isNameable = true) (output_named : w.output.isNameable = true) :
    (∃ p, (w.regenerate t).answer = .ok true ∧ (w.regenerate t).watcher.lastError = none ∧
      (w.regenerate t).watcher.generations = w.generations + 1 ∧
      Project.load t w.project = .ok p ∧
      (w.regenerate t).files.read w.output = .ok (w.moduleText p).toUTF8) ∨
    ∃ e : RegenerationError, (w.regenerate t).answer = .ok false ∧
      (w.regenerate t).watcher.lastError = some e.message ∧
      (w.regenerate t).watcher.generations = w.generations ∧
      t.SameFiles (w.regenerate t).files := by
  unfold regenerate
  rcases w.attempt_cases t project_named output_named with
    ⟨p, u, ns, tried, loaded, written⟩ | ⟨e, u, ns, tried, same⟩
  · rw [tried]
    exact .inl ⟨p, rfl, rfl, rfl, loaded, written⟩
  · rw [tried]
    exact .inr ⟨e, rfl, rfl, rfl, same⟩

end Watcher

/-! ## Runs -/

/-- A call, with the files before it and after it. -/
structure Call where
  before : FileTree
  answer : Except WatchFault Bool
  after : FileTree

def Call.succeeded (c : Call) : Bool :=
  match c.answer with
  | .ok b => b
  | .error _ => false

/-- A watcher that is called from time to time, and the files around it. The calls are kept, the
last one first. -/
structure Vigil where
  watcher : Watcher
  files : FileTree
  calls : List Call := []

namespace Vigil

/-- What happens around a watcher. -/
inductive Step where
  /-- Some program writes the document, or deletes it. -/
  | edited (bytes : Option ByteArray)
  | called

/-- The document is edited, by whatever path. -/
def edit (v : Vigil) (bytes : Option ByteArray) : Vigil :=
  { v with files := v.files.edit (v.files.place v.watcher.project) bytes }

/-- The watcher is called. -/
def call (v : Vigil) : Vigil :=
  let r := v.watcher.regenerate v.files
  ⟨r.watcher, r.files, ⟨v.files, r.answer, r.files⟩ :: v.calls⟩

def after (v : Vigil) : Step → Vigil
  | .edited bytes => v.edit bytes
  | .called => v.call

/-- What a run leaves behind. -/
def course (v : Vigil) (steps : List Step) : Vigil := steps.foldl after v

/-- The books of the watcher `w` are right, in a vigil that began with `files`. -/
structure Kept (w : Watcher) (files : FileTree) (v : Vigil) : Prop where
  settings : v.watcher.SameSettings w
  ground : v.files.ground = files.ground
  answered : ∀ c ∈ v.calls, ∃ b, c.answer = .ok b
  generations : v.watcher.generations = v.calls.countP Call.succeeded
  lastError : v.watcher.lastError = none ↔ ∀ c, v.calls.head? = some c → c.succeeded = true
  /-- Where no call has succeeded, the output is as it was. -/
  initial : (∀ c ∈ v.calls, c.succeeded = false) →
    v.files.bytes? (files.place w.output) = files.bytes? (files.place w.output)
  /-- Else it is the module of the document that the last call that succeeded found. -/
  output : ∀ c, v.calls.find? Call.succeeded = some c → ∃ p,
    Project.load c.before w.project = .ok p ∧ v.files.read w.output = .ok (w.moduleText p).toUTF8
  harmless : ∀ c ∈ v.calls, c.succeeded = false → c.before.SameFiles c.after

variable {w : Watcher} {files : FileTree} {v : Vigil}

/-- An edit changes the document, and that is not the output. -/
theorem Kept.edit (h : Kept w files v) (apart : files.place w.project ≠ files.place w.output)
    (bytes : Option ByteArray) : Kept w files (v.edit bytes) := by
  have same_place (p : Path) : v.files.place p = files.place p := by
    rw [FileTree.place, FileTree.place, h.ground]
  have outside : files.place w.output ≠ v.files.place v.watcher.project := by
    rw [h.settings.project, same_place]
    exact apart.symm
  have changes : v.files.ChangesOnly (· = v.files.place v.watcher.project) (v.edit bytes).files :=
    FileTree.changesOnly_edit
  refine { h with
    ground := changes.keeps.ground.trans h.ground
    initial := fun failed => ?_
    output := fun c last => ?_ }
  · rw [changes.bytes _ outside, h.initial failed]
  · obtain ⟨p, loaded, written⟩ := h.output c last
    rw [← same_place] at outside
    exact ⟨p, loaded, changes.read outside written⟩

/-- A call enters itself in the books, whatever comes of it. -/
theorem Kept.call (h : Kept w files v) (project_named : w.project.isNameable = true)
    (output_named : w.output.isNameable = true) : Kept w files v.call := by
  have settings := (Watcher.sameSettings_regenerate v.watcher v.files).trans h.settings
  rw [← h.settings.project] at project_named
  rw [← h.settings.output] at output_named
  have ground : (v.watcher.regenerate v.files).files.ground = files.ground := by
    rw [Watcher.files_regenerate, Watcher.ground_attempt, h.ground]
  have cases := v.watcher.regenerate_cases v.files project_named output_named
  unfold Vigil.call
  generalize v.watcher.regenerate v.files = r at settings ground cases ⊢
  obtain ⟨answer, watcher, u, ns⟩ := r
  rcases cases with ⟨p, rfl, lastError, generations, loaded, written⟩ |
    ⟨e, rfl, lastError, generations, same⟩
  · rw [h.settings.project] at loaded
    rw [h.settings.output, h.settings.moduleText] at written
    exact {
      settings
      ground
      answered := List.forall_mem_cons.2 ⟨⟨true, rfl⟩, h.answered⟩
      generations := by rw [generations, h.generations, List.countP_cons_of_pos rfl]
      lastError := iff_of_true lastError (by rintro _ ⟨⟩; rfl)
      initial := fun failed => nomatch failed _ List.mem_cons_self
      output := by
        rintro _ ⟨⟩
        exact ⟨p, loaded, written⟩
      harmless := List.forall_mem_cons.2 ⟨nofun, h.harmless⟩ }
  · exact {
      settings
      ground
      answered := List.forall_mem_cons.2 ⟨⟨false, rfl⟩, h.answered⟩
      generations := by rw [generations, h.generations, List.countP_cons_of_neg Bool.false_ne_true]
      lastError := by
        refine iff_of_false (by rw [lastError]; nofun) fun done => ?_
        cases done _ rfl
      initial := fun failed => by
        rw [same.bytes?_eq, h.initial (List.forall_mem_cons.1 failed).2]
      output := by
        intro c last
        obtain ⟨p, loaded, written⟩ := h.output c last
        exact ⟨p, loaded, same.read not_false written⟩
      harmless := List.forall_mem_cons.2 ⟨fun _ => same, h.harmless⟩ }

theorem kept_course (h : Kept w files v) (project_named : w.project.isNameable = true)
    (output_named : w.output.isNameable = true)
    (apart : files.place w.project ≠ files.place w.output) (steps : List Step) :
    Kept w files (v.course steps) := by
  induction steps generalizing v with
  | nil => exact h
  | cons s steps ih =>
    cases s with
    | edited bytes => exact ih (h.edit apart bytes)
    | called => exact ih (h.call project_named output_named)

/-- **The books of a watcher are right.** Wherever a run of edits and calls leads, the watcher has
counted the calls that succeeded, remembers a failure exactly if the last call failed, and has left in
the output the module of the document that the last successful call found, or else what was there in
the beginning; and no call that failed has changed a file. -/
theorem books_kept {w : Watcher} (fresh : w.generations = 0) (calm : w.lastError = none)
    (project_named : w.project.isNameable = true) (output_named : w.output.isNameable = true)
    (files : FileTree) (apart : files.place w.project ≠ files.place w.output)
    (steps : List Step) : Kept w files ((⟨w, files, []⟩ : Vigil).course steps) := by
  refine kept_course ?_ project_named output_named apart steps
  exact {
    settings := .refl w
    ground := rfl
    answered := nofun
    generations := fresh
    lastError := iff_of_true calm nofun
    initial := fun _ => rfl
    output := nofun
    harmless := nofun }

/-- A vigil in an empty directory. -/
def outset : Vigil := ⟨{ project := .ofText "p.json", output := .ofText "out.py" }, {}, []⟩

/-- The watcher is called before there is a document, while there is one, and after it is gone. -/
def visit : List Step := [.called, .edited (some "{}".toUTF8), .called, .edited none, .called]

theorem books_kept_visit :
    outset.watcher.generations = 0 ∧ outset.watcher.lastError = none ∧
      outset.files.place outset.watcher.project ≠ outset.files.place outset.watcher.output ∧
      Kept outset.watcher {} (outset.course visit) ∧
      (outset.course visit).calls.map Call.succeeded = [false, true, false] ∧
      (outset.course visit).watcher.generations = 1 := by
  have apart : outset.files.place outset.watcher.project ≠
      outset.files.place outset.watcher.output := by decide
  have kept : Kept outset.watcher {} (outset.course visit) :=
    books_kept rfl rfl rfl rfl {} apart visit
  have answers : (outset.course visit).calls.map Call.succeeded = [false, true, false] := by
    decide +kernel
  refine ⟨rfl, rfl, apart, kept, answers, ?_⟩
  calc (outset.course visit).watcher.generations
      = (outset.course visit).calls.countP Call.succeeded := kept.generations
    _ = ((outset.course visit).calls.map Call.succeeded).countP id := by
      rw [List.countP_map, Function.id_comp]
    _ = 1 := by rw [answers]; rfl

end Vigil

end Formwork
