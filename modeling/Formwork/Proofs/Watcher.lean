import Formwork.Proofs.Document.Store
import Formwork.Proofs.Source.NumberFault
import Formwork.Watcher

/-!
# Saves and regenerations

A watcher runs beside programs that save the document. What it leaves in the output file after a
run is decided by the debounce: an event that comes too early is dropped, and nothing remembers
it. `Watch.read_output_course_iff` says exactly when the output is the module of the document that
was saved last. Some event after that save must have come late enough, unless the output happens
to hold the module already. `Watch.read_output_course_dropped` is a run in which neither is so.

A run is any sequence of saves and events; an event need not follow the save that caused it at
once, and events of other files are among them. Nothing is assumed about the times.

The proof has two parts. Which events the handler acts on depends on the events alone
(`handler_course`), and a regeneration puts the files into a state that later regenerations keep
(`Watcher.Settled`). The second part holds even where the output is written over the document,
because a generated module is no document (`Project.load_generated`).
-/

set_option autoImplicit false

namespace Formwork

open Source (Format)

/-! ## Modules as documents -/

namespace Project

variable {t : FileTree} {path : Path}

/-- A generated module begins with a comment. -/
private theorem exists_toList_generate (p : Project) (f : Format) (comments : Bool) :
    ∃ cs, (p.generate f comments).toList = '#' :: cs := by
  have start : ∃ text ss,
      Source.framing f ++ Source.moduleCode p f comments = .comment text :: ss := by
    cases f <;> cases comments <;> exact ⟨_, _, rfl⟩
  obtain ⟨text, ss, code⟩ := start
  have sharp : ∃ cs, (Source.commentText text).toList = '#' :: cs := by
    unfold Source.commentText
    split
    · exact ⟨[], rfl⟩
    · exact ⟨' ' :: text.toList, by rw [String.toList_append]; rfl⟩
  obtain ⟨cs, comment⟩ := sharp
  rw [generate, code, Source.Stmt.text, Source.Stmt.linesAll, Source.Stmt.lines]
  simp [String.toList_append, Source.indentation, comment]

/-- A generated module is no document. -/
theorem load_generated {p q : Project} {f : Format} {comments : Bool}
    (found : t.read path = .ok (p.generate f comments).toUTF8) : load t path ≠ .ok q := by
  obtain ⟨cs, text⟩ := exists_toList_generate p f comments
  have unified : (Text.unifyLines (p.generate f comments)).toList =
      '#' :: Text.unifyLineEnds cs := by
    rw [Text.unifyLines, String.toList_ofList, text]
    simp [Text.unifyLineEnds]
  have refused : ∃ e, Json.read (Text.unifyLines (p.generate f comments)) = .error e := by
    rw [Json.read, unified]
    exact ⟨_, rfl⟩
  obtain ⟨e, refused⟩ := refused
  rw [load_of_read found (decode_toUTF8 _), ofText, decode, refused]
  intro loaded
  cases loaded

end Project

/-! ## Regeneration -/

namespace Watcher

/-- Two watchers of the same document that write the same module to the same file. -/
structure SameSettings (v w : Watcher) : Prop where
  project : v.project = w.project
  output : v.output = w.output
  format : v.format = w.format
  comments : v.comments = w.comments

theorem SameSettings.refl (w : Watcher) : w.SameSettings w := ⟨rfl, rfl, rfl, rfl⟩

theorem SameSettings.trans {u v w : Watcher} (h : u.SameSettings v) (k : v.SameSettings w) :
    u.SameSettings w :=
  ⟨h.project.trans k.project, h.output.trans k.output, h.format.trans k.format,
    h.comments.trans k.comments⟩

theorem SameSettings.symm {v w : Watcher} (h : v.SameSettings w) : w.SameSettings v :=
  ⟨h.project.symm, h.output.symm, h.format.symm, h.comments.symm⟩

variable {v w : Watcher} {p : Project} {t : FileTree}

/-- The text of the module that a watcher makes of a design. -/
def moduleText (w : Watcher) (p : Project) : String := p.generate w.format w.comments

theorem SameSettings.attempt (h : v.SameSettings w) (t : FileTree) :
    v.attempt t = w.attempt t := by
  rw [Watcher.attempt, Watcher.attempt, h.project, h.output, h.format, h.comments]

theorem files_regenerate (w : Watcher) (t : FileTree) :
    (w.regenerate t).files = (w.attempt t).2.1 := by
  unfold regenerate
  split <;> rename_i tried <;> rw [tried]

theorem sameSettings_regenerate (w : Watcher) (t : FileTree) :
    (w.regenerate t).watcher.SameSettings w := by
  unfold regenerate
  split <;> exact ⟨rfl, rfl, rfl, rfl⟩

/-- A document that is loaded has no number that cannot be written, so its module is generated. -/
theorem attempt_of_load (loaded : Project.load t w.project = .ok p) :
    w.attempt t =
      match (FileM.writeInto w.output (w.moduleText p)).run.run t with
      | (.ok (), files) => (.succeeded p, files, [p.generationNotice w.format])
      | (.error (.nameless flaw), files) => (.nameless flaw, files, [p.generationNotice w.format])
      | (.error (.refused cause path), files) =>
        (.failed (.output cause path), files, [p.generationNotice w.format]) := by
  have generated := Project.checkedGenerate_of_valid (Project.valid_of_load loaded) w.format w.comments
  rw [attempt, loaded]
  dsimp only
  rw [generated]
  rfl

theorem attempt_ne_number (w : Watcher) (t : FileTree) (e : Source.NumberFault) :
    (w.attempt t).1 ≠ .number e := by
  cases loaded : Project.load t w.project with
  | error refused =>
    rw [attempt, loaded]
    cases refused <;> nofun
  | ok p =>
    rw [attempt_of_load loaded]
    split <;> nofun

/-- Can the text be written to the output? -/
def Accepts (w : Watcher) (t : FileTree) (text : String) : Prop :=
  ∃ u, (FileM.writeInto w.output text).run.run t = (.ok (), u)

/-- The output holds the module of a design and goes on holding it when the watcher regenerates:
the output can be written again, and whatever document is loaded is that design. -/
structure Settled (w : Watcher) (p : Project) (t : FileTree) : Prop where
  written : t.read w.output = .ok (w.moduleText p).toUTF8
  again : w.Accepts t (w.moduleText p)
  source : ∀ q, Project.load t w.project = .ok q → q = p

theorem Accepts.congr (same : v.SameSettings w) (h : w.Accepts t (w.moduleText p)) :
    v.Accepts t (v.moduleText p) := by
  rw [Accepts, moduleText, ← same.output, ← same.format, ← same.comments] at h
  exact h

theorem Settled.congr (same : v.SameSettings w) (settled : w.Settled p t) : v.Settled p t := by
  obtain ⟨written, again, source⟩ := settled
  rw [← same.output, moduleText, ← same.format, ← same.comments] at written
  rw [← same.project] at source
  exact ⟨written, again.congr same, source⟩

/-- A valid document is generated and written where the output can be written. -/
theorem settled_attempt (valid : Project.load t w.project = .ok p)
    (writable : w.Accepts t (w.moduleText p)) : w.Settled p (w.attempt t).2.1 := by
  obtain ⟨u, written⟩ := writable
  have left : (w.attempt t).2.1 = u := by rw [attempt_of_load valid, written]
  rw [left]
  refine ⟨FileM.read_writeInto written, FileM.writeInto_again written, fun q loaded => ?_⟩
  obtain ⟨bytes, found⟩ := Project.exists_read_of_load valid
  rcases FileM.read_writeInto_other written found with same | overwritten
  · rw [← Project.load_congr found same, valid] at loaded
    exact (Except.ok.inj loaded).symm
  · exact absurd loaded (Project.load_generated overwritten)

/-- A regeneration keeps what an earlier one has settled. -/
theorem Settled.attempt (settled : w.Settled p t) : w.Settled p (w.attempt t).2.1 := by
  cases loaded : Project.load t w.project with
  | ok q =>
    obtain rfl := settled.source q loaded
    exact settled_attempt loaded settled.again
  | error e =>
    have kept : (w.attempt t).2.1 = t := by
      cases e <;> simp only [Watcher.attempt, loaded]
    rw [kept]
    exact settled

end Watcher

/-! ## Events -/

namespace Handler

open Watcher (files_regenerate sameSettings_regenerate)

/-- Is it an event of the document? -/
def concerns (h : Handler) (e : FileEvent) : Bool :=
  !e.isDirectory && match h.touches [e.source, e.destination] with
    | .ok touched => touched
    | .error _ => false

/-- Is the module generated anew for the event? -/
def acts (h : Handler) (e : FileEvent) : Bool := h.concerns e && !h.isEarly e.time

/-- The handler after an event. -/
def hears (h : Handler) (e : FileEvent) : Handler :=
  if h.acts e then { h with lastRun := e.time } else h

/-- What an event does: a regeneration and a note of the time, or nothing at all. -/
theorem handle_cases (h : Handler) (e : FileEvent) (w : Watcher) (t : FileTree) :
    ((h.handle e w t).2 = h.hears e) ∧ (h.handle e w t).1.watcher.SameSettings w
      ∧ (h.handle e w t).1.files = if h.acts e then (w.attempt t).2.1 else t := by
  unfold handle
  split
  · rename_i directory
    have ignored : h.acts e = false := by simp [acts, concerns, directory]
    simp [hears, ignored, Watcher.SameSettings.refl]
  · rename_i file
    split
    · rename_i fault touched
      have ignored : h.acts e = false := by simp [acts, concerns, touched]
      simp [hears, ignored, Watcher.SameSettings.refl]
    · rename_i touched
      have ignored : h.acts e = false := by simp [acts, concerns, touched]
      simp [hears, ignored, Watcher.SameSettings.refl]
    · rename_i touched
      split
      · rename_i early
        have ignored : h.acts e = false := by simp [acts, early]
        simp [hears, ignored, Watcher.SameSettings.refl]
      · rename_i late
        have acted : h.acts e = true := by simp [acts, concerns, touched, late, file]
        have noted :
            (w.report "info" "watcher_event" [("event_type", .text e.kind)]).1.SameSettings w :=
          ⟨rfl, rfl, rfl, rfl⟩
        refine ⟨?_, (sameSettings_regenerate _ t).trans noted, ?_⟩
        · rw [hears, if_pos acted]
        · rw [if_pos acted, ← noted.attempt t]
          exact files_regenerate _ t

end Handler

/-! ## Runs -/

/-- A watcher at work: its handler, and the files around it. -/
structure Watch where
  watcher : Watcher
  handler : Handler
  files : FileTree

namespace Watch

/-- What happens around a watcher. -/
inductive Step where
  /-- Some program writes the document. -/
  | saved (bytes : ByteArray)
  /-- The handler is told of a change. -/
  | heard (e : FileEvent)

/-- The document is written. A write that fails changes nothing. -/
def save (v : Watch) (bytes : ByteArray) : Watch :=
  match v.files.write v.watcher.project bytes with
  | .ok files => { v with files }
  | .error _ => v

/-- The handler is told of a change. -/
def hear (v : Watch) (e : FileEvent) : Watch :=
  let (done, handler) := v.handler.handle e v.watcher v.files
  ⟨done.watcher, handler, done.files⟩

def after (v : Watch) : Step → Watch
  | .saved bytes => v.save bytes
  | .heard e => v.hear e

/-- What a run leaves behind. -/
def course (v : Watch) (steps : List Step) : Watch := steps.foldl after v

/-- The events of a run. -/
def events (steps : List Step) : List FileEvent :=
  steps.filterMap fun
    | .saved _ => none
    | .heard e => some e

variable {v : Watch} {p : Project}

theorem course_append (v : Watch) (xs ys : List Step) :
    v.course (xs ++ ys) = (v.course xs).course ys := List.foldl_append

theorem course_saved_heard (v : Watch) (bytes : ByteArray) (e : FileEvent) :
    v.course [.saved bytes, .heard e] = (v.save bytes).hear e := rfl

theorem handler_save (v : Watch) (bytes : ByteArray) : (v.save bytes).handler = v.handler := by
  unfold save
  split <;> rfl

theorem handler_hear (v : Watch) (e : FileEvent) : (v.hear e).handler = v.handler.hears e :=
  (Handler.handle_cases v.handler e v.watcher v.files).1

theorem files_hear (v : Watch) (e : FileEvent) : (v.hear e).files =
    if v.handler.acts e then (v.watcher.attempt v.files).2.1 else v.files :=
  (Handler.handle_cases v.handler e v.watcher v.files).2.2

theorem sameSettings_hear (v : Watch) (e : FileEvent) :
    (v.hear e).watcher.SameSettings v.watcher :=
  (Handler.handle_cases v.handler e v.watcher v.files).2.1

theorem sameSettings_course (v : Watch) (steps : List Step) :
    (v.course steps).watcher.SameSettings v.watcher := by
  induction steps generalizing v with
  | nil => exact .refl _
  | cons step steps ih =>
    refine (ih (v.after step)).trans ?_
    cases step with
    | saved bytes =>
      show (v.save bytes).watcher.SameSettings v.watcher
      unfold save
      split <;> exact .refl _
    | heard e => exact sameSettings_hear v e

/-- Which events are acted on depends on the events alone. -/
theorem handler_course (v : Watch) (steps : List Step) :
    (v.course steps).handler = (events steps).foldl Handler.hears v.handler := by
  induction steps generalizing v with
  | nil => rfl
  | cons step steps ih =>
    show ((v.after step).course steps).handler = _
    rw [ih]
    cases step with
    | saved bytes =>
      show (events steps).foldl Handler.hears (v.save bytes).handler = _
      rw [handler_save]
      rfl
    | heard e =>
      show (events steps).foldl Handler.hears (v.hear e).handler = _
      rw [handler_hear]
      rfl

/-- What has been settled outlasts all further events. -/
theorem settled_course (settled : v.watcher.Settled p v.files) (es : List FileEvent) :
    v.watcher.Settled p (v.course (es.map .heard)).files := by
  induction es generalizing v with
  | nil => exact settled
  | cons e es ih =>
    have same := sameSettings_hear v e
    have next : (v.hear e).watcher.Settled p (v.hear e).files := by
      apply Watcher.Settled.congr same
      rw [files_hear]
      split
      · exact settled.attempt
      · exact settled
    exact (ih next).congr same.symm

/-- Events that are not acted on change no file. -/
theorem files_course_ignored {es : List FileEvent}
    (ignored : ∀ e ∈ es, v.handler.acts e = false) :
    (v.course (es.map .heard)).files = v.files := by
  induction es generalizing v with
  | nil => rfl
  | cons e es ih =>
    have first : v.handler.acts e = false := ignored e List.mem_cons_self
    have handler : (v.hear e).handler = v.handler := by
      rw [handler_hear, Handler.hears, first]
      rfl
    have files : (v.hear e).files = v.files := by
      rw [files_hear, first]
      rfl
    have rest : ((v.hear e).course (es.map .heard)).files = (v.hear e).files := by
      apply ih
      intro e' mem
      rw [handler]
      exact ignored e' (List.mem_cons_of_mem e mem)
    exact rest.trans files

/-- Where a valid document stands and the output can be written, the first event that is acted on
settles the output. -/
theorem settled_course_acted (valid : Project.load v.files v.watcher.project = .ok p)
    (writable : v.watcher.Accepts v.files (v.watcher.moduleText p)) {es : List FileEvent}
    (acted : ∃ e ∈ es, v.handler.acts e = true) :
    v.watcher.Settled p (v.course (es.map .heard)).files := by
  induction es generalizing v with
  | nil =>
    obtain ⟨e, mem, _⟩ := acted
    cases mem
  | cons e es ih =>
    have same := sameSettings_hear v e
    by_cases first : v.handler.acts e = true
    · have settled : (v.hear e).watcher.Settled p (v.hear e).files := by
        apply Watcher.Settled.congr same
        rw [files_hear, if_pos first]
        exact Watcher.settled_attempt valid writable
      exact (settled_course settled es).congr same.symm
    · have handler : (v.hear e).handler = v.handler := by
        rw [handler_hear, Handler.hears, if_neg first]
      have files : (v.hear e).files = v.files := by
        rw [files_hear, if_neg first]
      have later : ∃ e' ∈ es, (v.hear e).handler.acts e' = true := by
        rw [handler]
        obtain ⟨e', mem, late⟩ := acted
        rcases List.mem_cons.1 mem with here | later
        · rw [here] at late
          exact absurd late first
        · exact ⟨e', later, late⟩
      refine Watcher.Settled.congr same.symm (ih ?_ ?_ later)
      · rw [files, same.project]
        exact valid
      · rw [files]
        exact writable.congr same

/-- When the output is the module of the document that was saved last, after any run: some event
since that save was acted on, or the output held that module already. Whether an event is acted
on is decided by the events before it and their times. -/
theorem read_output_course_iff {v : Watch} {before : List Step} {bytes : ByteArray}
    {files : FileTree} {s : String} {p : Project}
    (saved : (v.course before).files.write v.watcher.project bytes = .ok files)
    (text : Text.Utf8.decode bytes = .ok s)
    (valid : Project.decode (Text.unifyLines s) = .ok p)
    (writable : v.watcher.Accepts files (v.watcher.moduleText p)) (since : List FileEvent) :
    (v.course (before ++ .saved bytes :: since.map .heard)).files.read v.watcher.output
        = .ok (v.watcher.moduleText p).toUTF8
      ↔ (∃ e ∈ since, ((events before).foldl Handler.hears v.handler).acts e = true)
        ∨ files.read v.watcher.output = .ok (v.watcher.moduleText p).toUTF8 := by
  have same := sameSettings_course v before
  have saves : (v.course before).save bytes = { v.course before with files } := by
    rw [save, same.project, saved]
  have run : v.course (before ++ .saved bytes :: since.map .heard) =
      ({ v.course before with files } : Watch).course (since.map .heard) := by
    rw [course_append, ← saves]
    rfl
  have loaded : Project.load files (v.course before).watcher.project = .ok p := by
    rw [same.project, Project.load_of_read (FileTree.read_write saved) text, Project.ofText, valid]
    rfl
  rw [run, ← handler_course]
  by_cases acted : ∃ e ∈ since, (v.course before).handler.acts e = true
  · have settled : (v.course before).watcher.Settled p
        (({ v.course before with files } : Watch).course (since.map .heard)).files :=
      settled_course_acted (v := { v.course before with files }) loaded (writable.congr same) acted
    exact iff_of_true (settled.congr same.symm).written (.inl acted)
  · have ignored : ∀ e ∈ since, (v.course before).handler.acts e = false := by
      intro e mem
      exact Bool.eq_false_iff.2 fun late => acted ⟨e, mem, late⟩
    have kept : (({ v.course before with files } : Watch).course (since.map .heard)).files
        = files := files_course_ignored ignored
    rw [kept]
    exact ⟨.inr, fun h => h.resolve_left acted⟩

/-! ## A save that is lost -/

/-- A watcher that waits for a while, where no file is yet. -/
def idle (debounce : Binary64) : Watch where
  watcher := { project := .ofText "p.json", output := .ofText "out.py" }
  handler := { target := ⟨["p.json"]⟩, debounce }
  files := {}

/-- A change of its document. -/
def changed (time : Binary64) : FileEvent := { source := "p.json", time }

/-- Its document and no other file. -/
def lone (text : String) : FileTree := { entries := [(⟨["p.json"]⟩, .file text.toUTF8)] }

/-- An empty text is saved, which is no document. -/
def emptied (time : Binary64) : List Step := [.saved "".toUTF8, .heard (changed time)]

section Idle

variable (debounce time : Binary64)

private theorem files_emptied : ((idle debounce).course (emptied time)).files = lone "" := by
  have found : (lone "").read (.ofText "p.json") = .ok "".toUTF8 := rfl
  have refused : ∃ e, Project.load (lone "") (.ofText "p.json") = .error e := by
    rw [Project.load_of_read found (Project.decode_toUTF8 "")]
    exact ⟨_, rfl⟩
  have left : ((idle debounce).watcher.attempt (lone "")).2.1 = lone "" := by
    obtain ⟨e, refused⟩ := refused
    cases e <;> simp only [Watcher.attempt, idle, refused]
  rw [emptied, course_saved_heard, files_hear]
  split
  · exact left
  · rfl

private theorem write_emptied : ((idle debounce).course (emptied time)).files.write
    (idle debounce).watcher.project "{}".toUTF8 = .ok (lone "{}") := by
  rw [files_emptied]
  rfl

private theorem accepts_lone (s text : String) :
    (idle debounce).watcher.Accepts (lone s) text := by
  have found : (lone s).isDirectory (idle debounce).watcher.output.parent = true := rfl
  have written : (lone s).write (idle debounce).watcher.output text.toUTF8 =
      .ok ((lone s).put ⟨["out.py"]⟩ (.file text.toUTF8)) := rfl
  exact ⟨_, FileM.writeInto_of_write found written⟩

private theorem files_dropped {later : Binary64}
    (early : ((events (emptied time)).foldl Handler.hears (idle debounce).handler).acts
      (changed later) = false) :
    ((idle debounce).course (emptied time ++ [.saved "{}".toUTF8, .heard (changed later)])).files
      = lone "{}" := by
  have same := sameSettings_course (idle debounce) (emptied time)
  rw [course_append, course_saved_heard, files_hear, handler_save, handler_course, early, save,
    same.project, write_emptied]
  rfl

end Idle

theorem read_output_course_iff_idle :
    ((idle 2).course (emptied 100 ++ .saved "{}".toUTF8 :: [changed 101].map .heard)).files.read
        (idle 2).watcher.output = .ok ((idle 2).watcher.moduleText {}).toUTF8
      ↔ (∃ e ∈ [changed 101],
          ((events (emptied 100)).foldl Handler.hears (idle 2).handler).acts e = true)
        ∨ (lone "{}").read (idle 2).watcher.output
          = .ok ((idle 2).watcher.moduleText {}).toUTF8 := by
  have valid : Project.decode (Text.unifyLines "{}") = .ok {} := rfl
  exact read_output_course_iff (write_emptied 2 100) (Project.decode_toUTF8 "{}") valid
    (accepts_lone 2 "{}" _) [changed 101]

/-- A document that is saved a second after an empty text is never generated, though it is valid
and the output can be written. -/
theorem read_output_course_dropped :
    Project.decode (Text.unifyLines "{}") = .ok {}
      ∧ (idle 2).watcher.Accepts (lone "{}") ((idle 2).watcher.moduleText {})
      ∧ ((idle 2).course (emptied 100 ++ [.saved "{}".toUTF8, .heard (changed 101)])).files.read
          (idle 2).watcher.output ≠ .ok ((idle 2).watcher.moduleText {}).toUTF8 := by
  refine ⟨rfl, accepts_lone 2 "{}" _, ?_⟩
  have early : ((events (emptied 100)).foldl Handler.hears (idle 2).handler).acts (changed 101)
      = false := by decide +kernel
  rw [files_dropped 2 100 early]
  nofun

end Watch

end Formwork
