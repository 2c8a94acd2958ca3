import Formwork.CommandLine.Run
import Formwork.Proofs.Files.Refusal
import Formwork.Proofs.Source.NumberFault

/-!
# How commands end

`Ends host m t failed done` says what comes of the command `m` when it is run on the files `t`:
`failed` holds of the failure that it ends with and of the files it leaves then, `done` of its
answer and the files otherwise. What the terminal holds besides is of no account. There is one rule
for each thing that a command can do, and `ends_bind` puts them together: what is required after the
first step is how the rest ends.
-/

set_option autoImplicit false

namespace Formwork.CommandLine

open Console
open Text (Raw)

variable {α β : Type}

/-- The command ends like this on such files, whatever else the terminal holds. -/
structure Ends (host : Host) (m : Console α) (t : FileTree) (failed : Failure → FileTree → Prop)
    (done : α → FileTree → Prop) : Prop where
  outcome : ∀ terminal : Terminal, terminal.files = t →
    match (m.run host).run.run terminal with
    | (.ok a, after) => done a after.files
    | (.error e, after) => failed e after.files

variable {host : Host} {m : Console α} {f : α → Console β} {t : FileTree}
  {failed : Failure → FileTree → Prop}

theorem Ends.imp {failed' : Failure → FileTree → Prop} {done done' : α → FileTree → Prop}
    (h : Ends host m t failed done) (fails : ∀ e u, failed e u → failed' e u)
    (weaker : ∀ a u, done a u → done' a u) : Ends host m t failed' done' := by
  refine ⟨fun terminal files => ?_⟩
  have outcome := h.outcome terminal files
  generalize (m.run host).run.run terminal = ran at outcome ⊢
  obtain ⟨result, after⟩ := ran
  cases result with
  | error e => exact fails e _ outcome
  | ok a => exact weaker a _ outcome

theorem Ends.mono {done done' : α → FileTree → Prop} (h : Ends host m t failed done)
    (weaker : ∀ a u, done a u → done' a u) : Ends host m t failed done' :=
  h.imp (fun _ _ => id) weaker

theorem ends_pure {a : α} {done : α → FileTree → Prop} (h : done a t) :
    Ends host (pure a) t failed done := by
  refine ⟨?_⟩
  rintro _ rfl
  exact h

theorem ends_throw {e : Failure} {done : α → FileTree → Prop} (h : failed e t) :
    Ends host (throw e) t failed done := by
  refine ⟨?_⟩
  rintro _ rfl
  exact h

theorem ends_bind {done : β → FileTree → Prop}
    (h : Ends host m t failed fun a u => Ends host (f a) u failed done) :
    Ends host (m >>= f) t failed done := by
  refine ⟨fun terminal files => ?_⟩
  have first := h.outcome terminal files
  have steps : (m >>= f).run host = m.run host >>= fun a => (f a).run host := rfl
  rw [steps, run_run_bind]
  generalize (m.run host).run.run terminal = ran at first
  obtain ⟨result, after⟩ := ran
  cases result with
  | error e => exact first
  | ok a => exact first.outcome after rfl

theorem ends_ite {c : Prop} [Decidable c] {m' : Console α} {done : α → FileTree → Prop}
    (yes : c → Ends host m t failed done) (no : ¬c → Ends host m' t failed done) :
    Ends host (if c then m else m') t failed done := by
  split
  · exact yes ‹_›
  · exact no ‹_›

/-! ## Steps that touch no file -/

section Quiet

variable {done : Unit → FileTree → Prop}

/-- The command has the terminal before it. -/
theorem ends_get {done : Terminal → FileTree → Prop}
    (h : ∀ terminal : Terminal, terminal.files = t → done terminal t) :
    Ends host get t failed done := by
  refine ⟨?_⟩
  rintro terminal rfl
  exact h terminal rfl

/-- The command finds the system that it runs on. -/
theorem ends_read {done : Host → FileTree → Prop} (h : done host t) :
    Ends host read t failed done := by
  refine ⟨?_⟩
  rintro _ rfl
  exact h

/-- A text is printed, or the output does not take it. -/
theorem ends_print {s : Raw}
    (fails : host.prints s = false → failed (.unprintable (host.complaint s)) t)
    (h : host.prints s = true → done () t) : Ends host (print s) t failed done := by
  refine ends_bind (ends_read (ends_ite (fun printed => ⟨?_⟩) fun unprinted => ?_))
  · rintro _ rfl
    exact h printed
  · exact ends_throw (fails (Bool.eq_false_iff.2 unprinted))

theorem ends_say {s : Raw}
    (fails : host.prints (s ++ "\n") = false →
      failed (.unprintable (host.complaint (s ++ "\n"))) t)
    (h : host.prints (s ++ "\n") = true → done () t) : Ends host (say s) t failed done :=
  ends_print fails h

theorem ends_warn {s : String} (h : done () t) : Ends host (warn s) t failed done := by
  refine ⟨?_⟩
  rintro _ rfl
  exact h

theorem ends_notify {n : Notice} (h : done () t) : Ends host (notify n) t failed done :=
  ends_bind (ends_get fun _ _ => ends_ite (fun _ => ends_warn h) fun _ => ends_pure h)

theorem ends_noteGeneration {before : Project} {s : Session} (h : done () t) :
    Ends host (noteGeneration before s) t failed done :=
  ends_ite (fun _ => ends_notify h) fun _ => ends_pure h

/-- Steps that leave the files as they are may be taken any number of times. -/
theorem ends_forM {xs : List α} {step : α → Console Unit}
    (each : ∀ x ∈ xs, Ends host (step x) t failed fun _ u => u = t) (h : done () t) :
    Ends host (xs.forM step) t failed done := by
  induction xs with
  | nil => exact ends_pure h
  | cons x xs ih =>
    have rest := ih fun y mem => each y (List.mem_cons_of_mem x mem)
    refine ends_bind ((each x List.mem_cons_self).mono fun _ u same => ?_)
    rw [same]
    exact rest

theorem ends_notifyAll {ns : List Notice} (h : done () t) : Ends host (notifyAll ns) t failed done :=
  ends_forM (fun _ _ => ends_notify rfl) h

end Quiet

/-- Goes on with what has been found, or fails. -/
theorem ends_check {ε : Type} {failure : ε → Failure} {r : Except ε α}
    {done : α → FileTree → Prop} (fails : ∀ e, r = .error e → failed (failure e) t)
    (h : ∀ a, r = .ok a → done a t) : Ends host (check failure r) t failed done := by
  cases r with
  | ok a => exact ends_pure (h a rfl)
  | error e => exact ends_throw (fails e rfl)

/-! ## Documents and settings -/

/-- The failure that stands for what is wrong with the file of a document. -/
def Failure.ofStore : StoreError → Failure
  | .document e => .document e
  | .nameless flaw => .file (.nameless flaw)

theorem ends_loadProject {file : Path} {done : Project → FileTree → Prop}
    (fails : ∀ e, Project.load t file = .error e → failed (.ofStore e) t)
    (h : ∀ p, Project.load t file = .ok p → done p t) :
    Ends host (loadProject file) t failed done := by
  refine ends_bind (ends_get fun terminal files => ?_)
  subst files
  split
  next p loaded => exact ends_pure (h p loaded)
  next failed_load => exact ends_throw (fails _ failed_load)
  next e failed_load => exact ends_bind (ends_notifyAll (ends_throw (fails _ failed_load)))

/-- The settings that count for a file. -/
def settingsOf (host : Host) (t : FileTree) (file : Path) : Except SettingsFileError Settings :=
  Settings.load host.stack t (settingsDirectory t.ground.home file)

theorem ends_settingsFor {file : Path} {done : Settings → FileTree → Prop}
    (nameless : ∀ flaw, file.isNameable = false → failed (.file (.nameless flaw)) t)
    (fails : ∀ e, file.isNameable = true → settingsOf host t file = .error e →
      failed (.settings e) t)
    (h : ∀ s, settingsOf host t file = .ok s → done s t) :
    Ends host (settingsFor file) t failed done := by
  refine ends_bind (ends_get fun terminal files => ?_)
  subst files
  dsimp only
  split
  next flaw found =>
    refine ends_throw (nameless flaw (Bool.eq_false_iff.2 fun named => ?_))
    cases (Path.wayFlaw?_eq_none_iff.2 named).symm.trans found
  next none_found =>
    have named := Path.wayFlaw?_eq_none_iff.1 none_found
    exact ends_bind (ends_read (ends_check (fun e => fails e named) h))

/-- The format that is asked for, where there is one, has a name. -/
def Choices.Known (choices : Choices) : Prop :=
  ∀ name, choices.format = some name → name ≠ "" → ∃ f, Source.Format.ofName name = .ok f

theorem ends_generation {choices : Choices} {settings : Settings}
    {done : Source.Format × Bool → FileTree → Prop}
    (fails : ∀ e, ¬choices.Known → failed (.name e) t) (h : ∀ x, choices.Known → done x t) :
    Ends host (generation choices settings) t failed done := by
  unfold generation
  split
  next none_asked =>
    refine ends_bind (ends_pure (ends_pure (h _ ?_)))
    intro name asked
    cases none_asked.symm.trans asked
  next empty =>
    refine ends_bind (ends_pure (ends_pure (h _ ?_)))
    intro name asked some_name
    cases empty.symm.trans asked
    exact absurd rfl some_name
  next name some_name asked =>
    refine ends_bind (ends_check ?_ ?_)
    · intro e unknown
      refine fails e fun known => ?_
      obtain ⟨f, named⟩ := known name asked some_name
      cases unknown.symm.trans named
    · intro f named
      refine ends_pure (h _ ?_)
      intro name' asked' _
      cases asked.symm.trans asked'
      exact ⟨f, named⟩

/-- The module of a design from a document is always generated. -/
theorem ends_generated {p : Project} {format : Source.Format} {comments : Bool}
    {done : String → FileTree → Prop} (valid : p.Valid)
    (h : done (p.generate format comments) t) :
    Ends host (generated p format comments) t failed done := by
  have generates := Project.checkedGenerate_of_valid valid format comments
  refine ends_bind (ends_notify (ends_check (fun e stuck => ?_) fun source generated => ?_))
  · cases generates.symm.trans stuck
  · cases generates.symm.trans generated
    exact h

/-! ## Steps that write -/

/-- The files are replaced. -/
theorem ends_modify {u : FileTree} {done : Unit → FileTree → Prop} (h : done () u) :
    Ends host (modify fun terminal => { terminal with files := u }) t failed done := by
  refine ⟨?_⟩
  rintro _ rfl
  exact h

theorem ends_onFiles {action : FileM Unit} {done : Unit → FileTree → Prop}
    (fails : ∀ e u, action.run.run t = (.error e, u) → failed (.file e) u)
    (h : ∀ u, action.run.run t = (.ok (), u) → done () u) :
    Ends host (onFiles action) t failed done := by
  refine ends_bind (ends_get fun terminal files => ?_)
  subst files
  generalize ran : action.run.run terminal.files = outcome
  obtain ⟨result, u⟩ := outcome
  refine ends_bind (ends_modify (ends_check (fun e failed => ?_) fun a succeeded => ?_))
  · exact fails e u (failed ▸ ran)
  · exact h u (succeeded ▸ ran)

theorem ends_saveProject {p : Project} {file : Path} {done : Unit → FileTree → Prop}
    (fails : ∀ e u, p.save file t = (.error e, u) → failed (.ofStore e) u)
    (h : ∀ u, p.save file t = (.ok (), u) → done () u) :
    Ends host (saveProject p file) t failed done := by
  refine ends_bind (ends_get fun terminal files => ?_)
  subst files
  generalize saved : p.save file terminal.files = outcome
  obtain ⟨result, u⟩ := outcome
  refine ends_bind (ends_modify ?_)
  split
  · exact ends_throw (fails _ u saved)
  · exact ends_throw (fails _ u saved)
  · exact ends_notify (h u saved)

/-! ## Runs -/

/-- A run ends as its command does. -/
theorem run_of_ends {files : FileTree} {arguments : List Raw} {r : Request}
    {done : FileTree → Prop} (request : Request.read arguments = .ok r)
    (h : Ends host r.invocation.run files failed fun _ => done) :
    (∃ e, (run host files arguments).exit = .failed e ∧
        failed e (run host files arguments).terminal.files) ∨
      (run host files arguments).exit = .done ∧ done (run host files arguments).terminal.files := by
  have outcome := h.outcome { files, threshold := r.threshold } rfl
  unfold run
  rw [request]
  dsimp only
  generalize (r.invocation.run.run host).run.run { files, threshold := r.threshold } = ran
    at outcome ⊢
  obtain ⟨result, after⟩ := ran
  cases result with
  | error e => exact .inl ⟨e, rfl, outcome⟩
  | ok a => exact .inr ⟨rfl, outcome⟩

end Formwork.CommandLine
