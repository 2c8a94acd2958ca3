import Formwork.Proofs.CommandLine.Outcomes
import Formwork.Proofs.Document.Store

/-!
# What commands leave of the files

`Leaves host m t failed done` says what becomes of the files `t` when the command `m` is run:
`failed` holds of the files that a failure leaves, and `done` of the answer and the files otherwise.
Which failure it is does not matter here, so this is `Ends` with the failure left out
(`leaves_iff_ends`), and each rule for it is the rule for `Ends`.
-/

set_option autoImplicit false

namespace Formwork.CommandLine

open Console
open Text (Raw)

variable {α β : Type}

/-- Whether the command fails or not, it leaves such files. -/
structure Leaves (host : Host) (m : Console α) (t : FileTree) (failed : FileTree → Prop)
    (done : α → FileTree → Prop) : Prop where
  outcome : ∀ terminal : Terminal, terminal.files = t →
    match (m.run host).run.run terminal with
    | (.ok a, after) => done a after.files
    | (.error _, after) => failed after.files

variable {host : Host} {m : Console α} {f : α → Console β} {t : FileTree}
  {failed : FileTree → Prop}

theorem leaves_iff_ends {done : α → FileTree → Prop} :
    Leaves host m t failed done ↔ Ends host m t (fun _ => failed) done :=
  ⟨fun h => ⟨h.outcome⟩, fun h => ⟨h.outcome⟩⟩

theorem Leaves.ends {done : α → FileTree → Prop} (h : Leaves host m t failed done) :
    Ends host m t (fun _ => failed) done :=
  leaves_iff_ends.1 h

theorem Ends.leaves {done : α → FileTree → Prop} (h : Ends host m t (fun _ => failed) done) :
    Leaves host m t failed done :=
  leaves_iff_ends.2 h

theorem Leaves.imp {failed' : FileTree → Prop} {done done' : α → FileTree → Prop}
    (h : Leaves host m t failed done) (fails : ∀ u, failed u → failed' u)
    (weaker : ∀ a u, done a u → done' a u) : Leaves host m t failed' done' :=
  (h.ends.imp (fun _ => fails) weaker).leaves

theorem Leaves.mono {done done' : α → FileTree → Prop} (h : Leaves host m t failed done)
    (weaker : ∀ a u, done a u → done' a u) : Leaves host m t failed done' :=
  h.imp (fun _ => id) weaker

theorem leaves_pure {a : α} {done : α → FileTree → Prop} (h : done a t) :
    Leaves host (pure a) t failed done :=
  (ends_pure h).leaves

theorem leaves_throw {e : Failure} {done : α → FileTree → Prop} (h : failed t) :
    Leaves host (throw e) t failed done :=
  (ends_throw h).leaves

theorem leaves_bind {done : β → FileTree → Prop}
    (h : Leaves host m t failed fun a u => Leaves host (f a) u failed done) :
    Leaves host (m >>= f) t failed done :=
  (ends_bind (h.ends.mono fun _ _ rest => rest.ends)).leaves

theorem leaves_ite {c : Prop} [Decidable c] {m' : Console α} {done : α → FileTree → Prop}
    (yes : c → Leaves host m t failed done) (no : ¬c → Leaves host m' t failed done) :
    Leaves host (if c then m else m') t failed done :=
  (ends_ite (fun holds => (yes holds).ends) fun fails => (no fails).ends).leaves

/-! ## Steps that touch no file -/

section Quiet

variable {done : Unit → FileTree → Prop}

/-- The command has the terminal before it. -/
theorem leaves_get {done : Terminal → FileTree → Prop}
    (h : ∀ terminal : Terminal, terminal.files = t → done terminal t) :
    Leaves host get t failed done :=
  (ends_get h).leaves

/-- A text is printed, or the output does not take it. -/
theorem leaves_print {s : Raw} (fails : host.prints s = false → failed t)
    (h : host.prints s = true → done () t) : Leaves host (print s) t failed done :=
  (ends_print fails h).leaves

theorem leaves_say {s : Raw} (fails : host.prints (s ++ "\n") = false → failed t)
    (h : host.prints (s ++ "\n") = true → done () t) : Leaves host (say s) t failed done :=
  leaves_print fails h

/-- The command finds the system that it runs on. -/
theorem leaves_read {done : Host → FileTree → Prop} (h : done host t) :
    Leaves host read t failed done :=
  (ends_read h).leaves

/-- Steps that leave the files as they are may be taken any number of times. -/
theorem leaves_forM {xs : List α} {step : α → Console Unit}
    (each : ∀ x ∈ xs, Leaves host (step x) t failed fun _ u => u = t) (h : done () t) :
    Leaves host (xs.forM step) t failed done :=
  (ends_forM (fun x mem => (each x mem).ends) h).leaves

theorem leaves_noteGeneration {before : Project} {s : Session} (h : done () t) :
    Leaves host (noteGeneration before s) t failed done :=
  (ends_noteGeneration h).leaves

end Quiet

section Answers

variable {done : α → FileTree → Prop}

/-- Goes on with what has been found, or fails. -/
theorem leaves_check {ε : Type} {failure : ε → Failure} {r : Except ε α}
    (fails : ∀ e, r = .error e → failed t) (h : ∀ a, r = .ok a → done a t) :
    Leaves host (check failure r) t failed done :=
  (ends_check fails h).leaves

end Answers

/-! ## Documents and settings -/

theorem leaves_loadProject {file : Path} {done : Project → FileTree → Prop}
    (fails : ∀ e, Project.load t file = .error e → failed t)
    (h : ∀ p, Project.load t file = .ok p → done p t) :
    Leaves host (loadProject file) t failed done :=
  (ends_loadProject fails h).leaves

theorem leaves_settingsFor {file : Path} {done : Settings → FileTree → Prop}
    (nameless : file.isNameable = false → failed t)
    (fails : ∀ e, settingsOf host t file = .error e → failed t)
    (h : ∀ s, settingsOf host t file = .ok s → done s t) :
    Leaves host (settingsFor file) t failed done :=
  (ends_settingsFor (fun _ => nameless) (fun e _ => fails e) h).leaves

theorem leaves_generation {choices : Choices} {settings : Settings}
    {done : Source.Format × Bool → FileTree → Prop} (fails : failed t) (h : ∀ x, done x t) :
    Leaves host (generation choices settings) t failed done :=
  (ends_generation (fun _ _ => fails) fun x _ => h x).leaves

theorem leaves_generated {p : Project} {format : Source.Format} {comments : Bool}
    {done : String → FileTree → Prop} (valid : p.Valid)
    (h : done (p.generate format comments) t) :
    Leaves host (generated p format comments) t failed done :=
  (ends_generated valid h).leaves

theorem leaves_onFiles {action : FileM Unit} {done : Unit → FileTree → Prop}
    (fails : ∀ e u, action.run.run t = (.error e, u) → failed u)
    (h : ∀ u, action.run.run t = (.ok (), u) → done () u) :
    Leaves host (onFiles action) t failed done :=
  (ends_onFiles fails h).leaves

theorem leaves_saveProject {p : Project} {file : Path} {done : Unit → FileTree → Prop}
    (fails : ∀ e u, p.save file t = (.error e, u) → failed u)
    (h : ∀ u, p.save file t = (.ok (), u) → done () u) :
    Leaves host (saveProject p file) t failed done :=
  (ends_saveProject fails h).leaves

/-! ## Runs -/

/-- A run ends as its command does. -/
theorem run_of_leaves {files : FileTree} {arguments : List Raw} {r : Request}
    {done : FileTree → Prop} (request : Request.read arguments = .ok r)
    (h : Leaves host r.invocation.run files failed fun _ => done) :
    (∃ f, (run host files arguments).exit = .failed f) ∧
        failed (run host files arguments).terminal.files ∨
      (run host files arguments).exit = .done ∧ done (run host files arguments).terminal.files :=
  (run_of_ends request h.ends).imp_left fun ⟨e, exit, fails⟩ => ⟨⟨e, exit⟩, fails⟩

end Formwork.CommandLine
