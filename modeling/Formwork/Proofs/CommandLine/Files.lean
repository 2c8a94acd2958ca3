import Formwork.Proofs.CommandLine.Addition
import Formwork.Proofs.CommandLine.Creation

/-!
# The files that a command writes

A command that ends writes one file at most, that of its target, and it writes it last: whatever fails
before has failed before a file was touched. After the write it only says so. Where the output takes
the path of the target, that does not fail, and so a run that fails leaves all files
(`CommandLine.files_run`). Where it does not, a run may fail and have written; then it is the path
that is to blame, and the file that it denotes is the only one that is another
(`CommandLine.prints_of_changed`). Directories may have been made on the way to it.

The one command that is left out is the one that goes on until it is stopped; it writes before it
begins to watch.
-/

set_option autoImplicit false

namespace Formwork.CommandLine

open Console
open Text (Raw)

/-- The path that a command writes to. -/
def Invocation.target? : Invocation → Option Path
  | new file .. => some file
  | add file .. => some file
  | generate _ _ out => out
  | watch _ out .. => some out
  | _ => none

/-- Does the command go on until it is stopped? -/
def Invocation.isWatch : Invocation → Bool
  | watch .. => true
  | _ => false

/-- At most the file that the path denotes is another. -/
structure Replaced (path : Path) (t u : FileTree) : Prop where
  there : u.locate path = .ok (t.place path)
  only : t.ChangesOnly (· = t.place path) u

/-- What a command leaves that ends well: its target replaced, and everything where it has none. -/
structure Written (target : Option Path) (t u : FileTree) : Prop where
  replaced : ∀ path, target = some path → Replaced path t u
  idle : target = none → u = t

/-- What a failure leaves. -/
inductive Spared (host : Host) (target : Option Path) (t u : FileTree) : Prop where
  /-- All files are as they were, and everything else where nothing was to be written. -/
  | same (same : t.SameFiles u) (idle : target = none → u = t)
  /-- The target has been written, but it could not be said. -/
  | unsaid {path : Path} (target : target = some path) (unprinted : host.prints path.raw = false)
    (replaced : Replaced path t u)

variable {host : Host} {t u : FileTree} {target : Option Path} {path : Path}

theorem spared_self : Spared host target t t := .same (.refl t) fun _ => rfl

theorem written_none : Written none t t := ⟨nofun, fun _ => rfl⟩

theorem written_some (h : Replaced path t u) : Written (some path) t u := by
  refine ⟨fun _ same => ?_, nofun⟩
  cases same
  exact h

theorem replaced_of_save {p : Project} (saved : p.save path t = (.ok (), u)) :
    Replaced path t u :=
  have ⟨_, _, _, there, only⟩ := Project.of_save_ok saved
  ⟨there, only⟩

theorem written_runNew (file : Path) (canvas : Vec) (panels : String) (force : Bool) :
    Leaves host (runNew file canvas panels force) t (Spared host (some file) t)
      fun _ => Written (some file) t := by
  have creates {u : FileTree} (h : Creates t file canvas panels force u) : Replaced file t u :=
    let ⟨_, _, saved⟩ := h
    replaced_of_save saved
  refine leaves_runNew.imp (fun u fails => ?_) fun _ u done => written_some (creates done)
  rcases fails with ⟨same, -⟩ | ⟨unprinted, done⟩
  · exact .same same nofun
  · rw [host.prints_created] at unprinted
    exact .unsaid rfl unprinted (creates done)

theorem written_runAdd {file : Path} {kind area : String} {point : Vec}
    (short : ∀ p, Project.load t file = .ok p → p.maxId + 1 < 10 ^ maxShownDigits) :
    Leaves host (runAdd file kind point area) t (Spared host (some file) t)
      fun _ => Written (some file) t :=
  (leaves_runAdd short).imp (fun _ ⟨same, _⟩ => same ▸ spared_self) fun _ _ ⟨_, _, saved⟩ =>
    written_some (replaced_of_save saved)

theorem written_runGenerate (file : Path) (choices : Choices) (out : Option Path) :
    Leaves host (runGenerate file choices out) t (Spared host out t) fun _ => Written out t := by
  have spared : Spared host out t t := spared_self
  unfold runGenerate
  refine leaves_bind (leaves_settingsFor (fun _ => spared) (fun _ _ => spared) fun settings _ => ?_)
  refine leaves_bind (leaves_generation spared fun x => ?_)
  refine leaves_bind (leaves_loadProject (fun _ _ => spared) fun p loaded => ?_)
  refine leaves_bind (leaves_generated (Project.valid_of_load loaded) ?_)
  cases out with
  | none => exact leaves_print (fun _ => spared) fun _ => written_none
  | some path =>
    have writes := FileM.writes_writeInto t path (p.generate x.1 x.2)
    refine leaves_bind (leaves_onFiles (fun e u ran => ?_) fun u ran => ?_)
    · rw [ran] at writes
      exact .same writes.of_error.1 nofun
    · rw [ran] at writes
      obtain ⟨-, -, -, there, only⟩ := writes.of_ok
      refine leaves_say (fun unprinted => ?_) fun _ => written_some ⟨there, only⟩
      exact .unsaid rfl (host.prints_wrote x.1 path ▸ unprinted) ⟨there, only⟩

theorem written_runPreview (file : Path) :
    Leaves host (runPreview file) t (Spared host none t) fun _ => Written none t := by
  refine leaves_bind (leaves_loadProject (fun _ _ => spared_self) fun p _ => ?_)
  refine leaves_bind (leaves_read (leaves_ite (fun _ => ?_) fun _ => ?_))
  · exact leaves_bind (leaves_throw spared_self)
  · exact leaves_say (fun _ => spared_self) fun _ => written_none

theorem written_runCheck (file : Path) :
    Leaves host (runCheck file) t (Spared host none t) fun _ => Written none t := by
  refine leaves_bind (leaves_loadProject (fun _ _ => spared_self) fun p _ => ?_)
  refine leaves_bind (leaves_say (fun _ => spared_self) fun _ => ?_)
  refine leaves_forM (fun a _ => leaves_ite (fun _ => ?_) fun _ => ?_) written_none
  · exact leaves_say (fun _ => spared_self) fun _ => rfl
  · exact leaves_pure rfl

theorem written_run {i : Invocation} (watches : i.isWatch = false)
    (short : ∀ file kind x y area, i = .add file kind x y area →
      ∀ p, Project.load t file = .ok p → p.maxId + 1 < 10 ^ maxShownDigits) :
    Leaves host i.run t (Spared host i.target? t) fun _ => Written i.target? t := by
  cases i with
  | new file width height panels force => exact written_runNew file ⟨width, height⟩ panels force
  | add file kind x y area => exact written_runAdd (short file kind x y area rfl)
  | kinds =>
    exact leaves_forM (fun k _ => leaves_say (fun _ => spared_self) fun _ => rfl) written_none
  | generate file choices out => exact written_runGenerate file choices out
  | preview file => exact written_runPreview file
  | check file => exact written_runCheck file
  | watch => cases watches
  | help => exact leaves_say (fun _ => spared_self) fun _ => written_none
  | version => exact leaves_say (fun _ => spared_self) fun _ => written_none

/-- A run fails and spares the files, or it ends well and has written. -/
theorem run_spared_or_written (host : Host) {files : FileTree} {arguments : List Raw} {r : Request}
    (request : Request.read arguments = .ok r) (watches : r.invocation.isWatch = false)
    (short : ∀ file kind x y area, r.invocation = .add file kind x y area →
      ∀ p, Project.load files file = .ok p → ∀ w ∈ p.widgets, w.id < 10 ^ 4300 - 1) :
    (∃ f, (run host files arguments).exit = .failed f) ∧
        Spared host r.invocation.target? files (run host files arguments).terminal.files ∨
      (run host files arguments).exit = .done ∧
        Written r.invocation.target? files (run host files arguments).terminal.files :=
  run_of_leaves request <| written_run watches fun file kind x y area asks p loaded =>
    Project.maxId_succ_lt (short file kind x y area asks p loaded)

/-- A run that fails and has changed a file has written its target; the output does not take its
path, and no other file is another. -/
theorem prints_of_changed {host : Host} {files : FileTree} {arguments : List Raw}
    (ends : ∀ r, Request.read arguments = .ok r → r.invocation.isWatch = false)
    (short : ∀ r file kind x y area, Request.read arguments = .ok r →
      r.invocation = .add file kind x y area →
      ∀ p, Project.load files file = .ok p → ∀ w ∈ p.widgets, w.id < 10 ^ 4300 - 1)
    (failed : (run host files arguments).exit ≠ .done)
    (changed : ¬files.SameFiles (run host files arguments).terminal.files) :
    ∃ r path, Request.read arguments = .ok r ∧ r.invocation.target? = some path ∧
      host.prints path.raw = false ∧
      Replaced path files (run host files arguments).terminal.files := by
  cases request : Request.read arguments with
  | error e =>
    have ended : run host files arguments = ⟨.misused e, { files }⟩ := by rw [run, request]
    rw [ended] at changed
    exact absurd (.refl files) changed
  | ok r =>
    rcases run_spared_or_written host request (ends r request)
      fun file kind x y area => short r file kind x y area request with
      ⟨-, spared⟩ | ⟨done, -⟩
    · cases spared with
      | same same => exact absurd same changed
      | unsaid target unprinted replaced => exact ⟨r, _, rfl, target, unprinted, replaced⟩
    · exact absurd done failed

end Formwork.CommandLine
