import Formwork.Proofs.CommandLine.Files
import Formwork.Proofs.Files.Refusal

/-!
# Failures that escape

The program ends with a plain message whatever goes wrong with a document, the settings, a name or a
path. A few things get past it: a grid that is too large an integer to be a number, a point whose
corner is no finite number of grid steps away, a module that cannot be written where it is to go, and
three that the system decides. It may not let one look whether there is a file, and it may have no
room to go down the levels of a settings file or of a manifest.

`Escapes` says for each command when one of them is met before anything else fails, and
`run_escapes_iff` that these are exactly the runs that end without a plain message, whatever the
system. Only the command that goes on until it is stopped is left out.
-/

set_option autoImplicit false

namespace Formwork

/-- Is it not an error of the settings that it ends with, but one of arithmetic or of the system? -/
def SettingsFileError.IsForeign : SettingsFileError → Prop
  | settings .oversizedGrid | settings .tooDeep | unknown _ | tooDeep => True
  | _ => False

namespace CommandLine

open Console
open Text (Raw)

/-- The command meets an error that is not reported, and nothing that is reported comes before. -/
inductive Escapes (host : Host) (t : FileTree) : Invocation → Prop where
  | unseen {file : Path} {width height : Binary64} {panels : String} {force : Bool} {e : FileError}
    (barred : t.contains file = .error e) : Escapes host t (.new file width height panels force)
  | settingsOfAdd {file : Path} {kind area : String} {x y : Binary64} {p : Project}
    {e : SettingsFileError} (loaded : Project.load t file = .ok p)
    (stuck : settingsOf host t file = .error e) (foreign : e.IsForeign) :
    Escapes host t (.add file kind x y area)
  | point {file : Path} {kind area : String} {x y : Binary64} {p : Project} {settings : Settings}
    {k : Kind} {a : Area} (loaded : Project.load t file = .ok p)
    (set : settingsOf host t file = .ok settings)
    (named : Kind.ofName kind = .ok k) (docked : Area.ofName area = .ok a)
    (infinite : snapToGrid settings.gridSize (Session.cornerOf ⟨x, y⟩ {} k.defaultSize) =
      .error .infinite) :
    Escapes host t (.add file kind x y area)
  | settingsOfGenerate {file : Path} {choices : Choices} {out : Option Path}
    {e : SettingsFileError} (named : file.isNameable = true)
    (stuck : settingsOf host t file = .error e) (foreign : e.IsForeign) :
    Escapes host t (.generate file choices out)
  | output {file path : Path} {choices : Choices} {settings : Settings} {p : Project}
    (set : settingsOf host t file = .ok settings) (known : choices.Known)
    (loaded : Project.load t file = .ok p) (blocked : t.Blocks path) :
    Escapes host t (.generate file choices (some path))
  | manifest {file : Path} {p : Project} (loaded : Project.load t file = .ok p)
    (deep : host.stack.exhausts (.written (Manifest.ofProject p).toJson) = true) :
    Escapes host t (.preview file)

/-- A manifest with few enough levels is written on every system. -/
theorem not_escapes_preview {host : Host} {t : FileTree} {file : Path}
    (few : ∀ p, Project.load t file = .ok p →
      (Manifest.ofProject p).toJson.levels ≤ host.stack.room) :
    ¬Escapes host t (.preview file) := by
  intro escapes
  cases escapes with
  | manifest loaded deep =>
    have room := host.stack.not_exhausts (.written (Manifest.ofProject _).toJson) (few _ loaded)
    cases room.symm.trans deep

/-! ## What is reported -/

namespace Failure

theorem isReported_ofStore (e : StoreError) : (ofStore e).isReported = true := by
  cases e <;> rfl

theorem isReported_settings_iff {e : SettingsFileError} :
    (settings e).isReported = false ↔ e.IsForeign := by
  cases e with
  | settings e => cases e <;> simp [isReported, SettingsFileError.IsForeign]
  | unknown | tooDeep => exact iff_of_true rfl trivial
  | malformed | unreadable | encoding => exact iff_of_false nofun id

theorem isReported_rounding_iff {e : Binary64.RoundingError} :
    (fault (.rounding e)).isReported = false ↔ e = .infinite := by
  cases e <;> simp [isReported]

theorem isReported_file_iff {e : FileError} :
    (file e).isReported = false ↔ ∃ cause q, e = .refused cause q := by
  cases e with
  | refused cause q => exact iff_of_true rfl ⟨cause, q, rfl⟩
  | nameless flaw => exact iff_of_false nofun nofun

end Failure

/-- What is computed for every item of a list fails as it does for some item. -/
theorem exists_of_mapM_error {ε β γ : Type} {f : β → Except ε γ} {xs : List β} {e : ε}
    (h : xs.mapM f = .error e) : ∃ x ∈ xs, f x = .error e := by
  induction xs with
  | nil => cases h
  | cons x xs ih =>
    rw [List.mapM_cons] at h
    cases first : f x with
    | error e' =>
      rw [first] at h
      cases h
      exact ⟨x, List.mem_cons_self, first⟩
    | ok y =>
      cases rest : xs.mapM f with
      | error e' =>
        rw [first, rest] at h
        cases h
        obtain ⟨z, mem, failed⟩ := ih rest
        exact ⟨z, List.mem_cons_of_mem x mem, failed⟩
      | ok ys =>
        rw [first, rest] at h
        cases h

theorem isReported_of_panelsOf {raw : String} {e : Failure} (h : panelsOf raw = .error e) :
    e.isReported = true := by
  obtain ⟨name, -, failed⟩ := exists_of_mapM_error h
  split at failed
  next => cases failed; rfl
  next =>
    split at failed
    next => cases failed
    next => cases failed; rfl

variable {α : Type} {host : Host} {m : Console α} {t : FileTree}

/-- A command that reports whatever goes wrong. -/
def Reports (host : Host) (m : Console α) (t : FileTree) : Prop :=
  Ends host m t (fun e _ => e.isReported = true) fun _ _ => True

/-- The command ends without a plain message exactly if `E` holds. -/
def EscapesIff (host : Host) (m : Console α) (t : FileTree) (E : Prop) : Prop :=
  Ends host m t (fun e _ => e.isReported = false ↔ E) fun _ _ => ¬E

theorem Reports.escapesIff {E : Prop} (h : Reports host m t) (calm : ¬E) :
    EscapesIff host m t E := by
  refine h.imp (fun e _ reported => iff_of_false ?_ calm) fun _ _ _ => calm
  rw [reported]
  nofun

/-- That the output does not take a line is reported. -/
theorem reports_say (s : Raw) : Reports host (say s) t := ends_say (fun _ => rfl) fun _ => trivial

/-! ## Commands -/

theorem escapesIff_runNew (file : Path) (width height : Binary64) (panels : String)
    (force : Bool) :
    EscapesIff host (runNew file ⟨width, height⟩ panels force) t
      (Escapes host t (.new file width height panels force)) := by
  unfold runNew
  refine ends_bind (ends_get fun terminal files => ?_)
  rw [files]
  refine ends_bind (ends_check (fun e unseen => ?_) fun found seen => ?_)
  · obtain ⟨-, bar, rfl, -⟩ := FileTree.contains_error unseen
    exact iff_of_true rfl (.unseen unseen)
  extract_lets written
  have calm : ¬Escapes host t (.new file width height panels force) := by
    intro escapes
    cases escapes with
    | unseen barred => cases seen.symm.trans barred
  refine Reports.escapesIff ?_ calm
  have writes : Reports host (written ()) t := by
    refine ends_bind (ends_check (fun e stuck => isReported_of_panelsOf stuck) fun chosen _ => ?_)
    refine ends_bind (ends_saveProject (fun e u _ => Failure.isReported_ofStore e) fun u _ => ?_)
    exact reports_say _
  exact ends_ite (fun _ => ends_bind (ends_throw rfl)) fun _ => writes

theorem escapesIff_runPreview (file : Path) :
    EscapesIff host (runPreview file) t (Escapes host t (.preview file)) := by
  refine ends_bind (ends_loadProject (fun e stuck => ?_) fun p loaded => ?_)
  · refine iff_of_false (by rw [Failure.isReported_ofStore]; nofun) ?_
    intro escapes
    cases escapes with
    | manifest loaded => cases stuck.symm.trans loaded
  refine ends_bind (ends_read (ends_ite (fun deep => ?_) fun room => ?_))
  · exact ends_bind (ends_throw (iff_of_true rfl (.manifest loaded deep)))
  · refine (reports_say _).escapesIff fun escapes => ?_
    cases escapes with
    | manifest loaded' deep =>
      cases loaded.symm.trans loaded'
      exact room deep

theorem reports_runCheck (file : Path) : Reports host (runCheck file) t := by
  refine ends_bind (ends_loadProject (fun e _ => Failure.isReported_ofStore e) fun p _ => ?_)
  refine ends_bind (ends_say (fun _ => rfl) fun _ => ends_forM (fun a _ => ?_) trivial)
  exact ends_ite (fun _ => ends_say (fun _ => rfl) fun _ => rfl) fun _ => ends_pure rfl

section Settings

variable {file : Path} {settings : Settings}

/-- With settings in place, only the point can escape. -/
private theorem escapes_add_iff {kind area : String} {x y : Binary64} {p : Project}
    (loaded : Project.load t file = .ok p)
    (set : settingsOf host t file = .ok settings) :
    Escapes host t (.add file kind x y area) ↔ ∃ k a,
      Kind.ofName kind = .ok k ∧ Area.ofName area = .ok a ∧
        snapToGrid settings.gridSize (Session.cornerOf ⟨x, y⟩ {} k.defaultSize) =
          .error .infinite := by
  constructor
  · intro escapes
    cases escapes with
    | settingsOfAdd _ stuck => cases set.symm.trans stuck
    | point _ set' named docked infinite =>
      cases set.symm.trans set'
      exact ⟨_, _, named, docked, infinite⟩
  · rintro ⟨k, a, named, docked, infinite⟩
    exact .point loaded set named docked infinite

/-- Where the names are known as well, it does so exactly if it cannot be snapped for an infinity. -/
private theorem escapes_add_iff_snap {kind area : String} {x y : Binary64} {p : Project} {k : Kind}
    {a : Area} (loaded : Project.load t file = .ok p)
    (set : settingsOf host t file = .ok settings)
    (named : Kind.ofName kind = .ok k) (docked : Area.ofName area = .ok a) :
    Escapes host t (.add file kind x y area) ↔
      snapToGrid settings.gridSize (Session.cornerOf ⟨x, y⟩ {} k.defaultSize) =
        .error .infinite := by
  rw [escapes_add_iff loaded set]
  refine ⟨?_, fun infinite => ⟨k, a, named, docked, infinite⟩⟩
  rintro ⟨k', a', named', -, infinite⟩
  cases named.symm.trans named'
  exact infinite

/-- With settings in place, only the output can escape. -/
private theorem escapes_generate_iff {choices : Choices} {out : Option Path}
    (set : settingsOf host t file = .ok settings) :
    Escapes host t (.generate file choices out) ↔ choices.Known ∧
      (∃ p, Project.load t file = .ok p) ∧ ∃ path, out = some path ∧ t.Blocks path := by
  constructor
  · intro escapes
    cases escapes with
    | settingsOfGenerate _ stuck => cases set.symm.trans stuck
    | output _ known loaded blocked => exact ⟨known, ⟨_, loaded⟩, _, rfl, blocked⟩
  · rintro ⟨known, ⟨p, loaded⟩, path, rfl, blocked⟩
    exact .output set known loaded blocked

end Settings

theorem escapesIff_runAdd (file : Path) (kind area : String) (x y : Binary64) :
    EscapesIff host (runAdd file kind ⟨x, y⟩ area) t (Escapes host t (.add file kind x y area)) := by
  unfold runAdd
  refine ends_bind (ends_loadProject ?_ ?_)
  · intro e stuck
    refine iff_of_false (by rw [Failure.isReported_ofStore]; nofun) ?_
    intro escapes
    cases escapes with
    | settingsOfAdd loaded => cases stuck.symm.trans loaded
    | point loaded => cases stuck.symm.trans loaded
  intro p loaded
  obtain ⟨bytes, found⟩ := Project.exists_read_of_load loaded
  have path_named := (FileTree.read_eq_ok_iff.1 found).1
  refine ends_bind (ends_settingsFor ?_ ?_ ?_)
  · exact fun _ nameless => nomatch path_named.symm.trans nameless
  · intro e _ stuck
    rw [Failure.isReported_settings_iff]
    refine ⟨.settingsOfAdd loaded stuck, fun escapes => ?_⟩
    cases escapes with
    | settingsOfAdd _ stuck' foreign =>
      cases stuck.symm.trans stuck'
      exact foreign
    | point _ set => cases stuck.symm.trans set
  intro settings set
  refine ends_bind (ends_check ?_ ?_)
  · intro e unknown
    rw [escapes_add_iff loaded set]
    refine iff_of_false nofun ?_
    rintro ⟨k, a, named, -, -⟩
    cases unknown.symm.trans named
  intro k named
  refine ends_bind (ends_check ?_ ?_)
  · intro e unknown
    rw [escapes_add_iff loaded set]
    refine iff_of_false nofun ?_
    rintro ⟨k, a, -, docked, -⟩
    cases unknown.symm.trans docked
  intro a docked
  rw [escapes_add_iff_snap loaded set named docked]
  rcases Session.place_start_cases (Project.valid_of_load loaded) settings k ⟨x, y⟩ a with
    ⟨e, s, stuck, placed⟩ | ⟨pos, s, snapped, -, placed⟩
  · rw [placed]
    refine ends_bind (ends_noteGeneration (ends_bind (ends_throw ?_)))
    rw [Failure.isReported_rounding_iff, stuck, Except.error.injEq]
  · refine Reports.escapesIff ?_ ?_
    · rcases placed with placed | ⟨placed, -⟩
      · rw [placed]
        refine ends_bind (ends_noteGeneration (ends_bind (ends_pure ?_)))
        refine ends_bind
          (ends_saveProject (fun e u _ => Failure.isReported_ofStore e) fun u _ => ?_)
        exact ends_ite (fun _ => ends_throw rfl) fun _ => reports_say _
      · rw [placed]
        exact ends_bind (ends_noteGeneration (ends_bind (ends_throw rfl)))
    · rw [snapped]
      nofun

theorem escapesIff_runGenerate (file : Path) (choices : Choices) (out : Option Path) :
    EscapesIff host (runGenerate file choices out) t
      (Escapes host t (.generate file choices out)) := by
  unfold runGenerate
  refine ends_bind (ends_settingsFor ?_ ?_ ?_)
  · intro _ nameless
    refine iff_of_false nofun ?_
    intro escapes
    cases escapes with
    | settingsOfGenerate named => cases nameless.symm.trans named
    | output _ _ loaded =>
      obtain ⟨bytes, found⟩ := Project.exists_read_of_load loaded
      cases nameless.symm.trans (FileTree.read_eq_ok_iff.1 found).1
  · intro e named stuck
    rw [Failure.isReported_settings_iff]
    refine ⟨.settingsOfGenerate named stuck, fun escapes => ?_⟩
    cases escapes with
    | settingsOfGenerate _ stuck' foreign =>
      cases stuck.symm.trans stuck'
      exact foreign
    | output set => cases stuck.symm.trans set
  intro settings set
  rw [escapes_generate_iff set]
  refine ends_bind (ends_generation ?_ ?_)
  · exact fun e unknown => iff_of_false nofun fun escapes => unknown escapes.1
  intro x known
  refine ends_bind (ends_loadProject ?_ ?_)
  · intro e stuck
    refine iff_of_false (by rw [Failure.isReported_ofStore]; nofun) ?_
    rintro ⟨-, ⟨p, loaded⟩, -⟩
    cases stuck.symm.trans loaded
  intro p loaded
  refine ends_bind (ends_generated (Project.valid_of_load loaded) ?_)
  cases out with
  | none =>
    refine Reports.escapesIff (ends_print (fun _ => rfl) fun _ => trivial) ?_
    rintro ⟨-, -, path, mismatch, -⟩
    cases mismatch
  | some path =>
    have blocks : (choices.Known ∧ (∃ p, Project.load t file = .ok p) ∧
        ∃ q, some path = some q ∧ t.Blocks q) ↔ t.Blocks path := by
      refine ⟨?_, fun blocked => ⟨known, ⟨p, loaded⟩, path, rfl, blocked⟩⟩
      rintro ⟨-, -, q, same, blocked⟩
      cases same
      exact blocked
    have refused := FileM.writeInto_refused_iff (t := t) (p := path) (s := p.generate x.1 x.2)
    rw [blocks, ← refused]
    refine ends_bind (ends_onFiles (fun e u ran => ?_) fun u ran => (reports_say _).escapesIff ?_)
    · rw [Failure.isReported_file_iff, ran]
      simp only [Except.error.injEq]
    · rw [ran]
      exact fun ⟨_, _, mismatch⟩ => nomatch mismatch

theorem escapesIff_run {i : Invocation} (watches : i.isWatch = false) :
    EscapesIff host i.run t (Escapes host t i) := by
  cases i with
  | new file width height panels force => exact escapesIff_runNew file width height panels force
  | add file kind x y area => exact escapesIff_runAdd file kind area x y
  | kinds =>
    refine Reports.escapesIff (ends_forM (fun k _ => ?_) trivial) nofun
    exact ends_say (fun _ => rfl) fun _ => rfl
  | generate file choices out => exact escapesIff_runGenerate file choices out
  | preview file => exact escapesIff_runPreview file
  | check file => exact (reports_runCheck file).escapesIff nofun
  | watch => cases watches
  | help => exact (reports_say _).escapesIff nofun
  | version => exact (reports_say _).escapesIff nofun

/-! ## Runs -/

theorem run_escapes_iff_of_read (host : Host) {files : FileTree} {arguments : List Raw} {r : Request}
    (request : Request.read arguments = .ok r) (watches : r.invocation.isWatch = false) :
    (∃ e, (run host files arguments).exit = .failed e ∧ e.isReported = false) ↔
      Escapes host files r.invocation := by
  have escapes : EscapesIff host r.invocation.run files (Escapes host files r.invocation) :=
    escapesIff_run watches
  rcases run_of_ends request escapes with ⟨e, failed, escaped⟩ | ⟨done, calm⟩
  · rw [failed, ← escaped]
    simp
  · rw [done]
    exact iff_of_false nofun calm

/-- **What escapes.** A run ends well, or for its arguments, or with a plain message, unless it
meets a settings file with an error that is none of the settings, a point that cannot be snapped for
an infinity, an output that is refused, a path that may not be looked up, or a manifest with more
levels than there is room for. -/
theorem run_escapes_iff {host : Host} {files : FileTree} {arguments : List Raw}
    (ends : ∀ r, Request.read arguments = .ok r → r.invocation.isWatch = false) :
    (∃ e, (run host files arguments).exit = .failed e ∧ e.isReported = false) ↔
      ∃ r, Request.read arguments = .ok r ∧ Escapes host files r.invocation := by
  cases request : Request.read arguments with
  | error e =>
    have ended : run host files arguments = ⟨.misused e, { files }⟩ := by rw [run, request]
    rw [ended]
    refine iff_of_false ?_ ?_
    · rintro ⟨_, mismatch, -⟩
      cases mismatch
    · rintro ⟨_, mismatch, -⟩
      cases mismatch
  | ok r =>
    rw [run_escapes_iff_of_read host request (ends r request)]
    simp

theorem load_lone {p : Project} (valid : p.Valid) :
    Project.load (lone p) (.ofText "p.json") = .ok p :=
  Project.load_of_read_encode valid rfl

theorem load_lone_empty : Project.load (lone {}) (.ofText "p.json") = .ok {} :=
  load_lone ⟨fun _ mem => absurd mem List.not_mem_nil, List.nodup_nil⟩

/-- A module that is to be written below a document. -/
theorem run_escapes_iff_below :
    (∀ r, Request.read ["generate", "p.json", "--out", "p.json/out.py"] = .ok r →
        r.invocation.isWatch = false) ∧
      ∃ e, (run {} (lone {}) ["generate", "p.json", "--out", "p.json/out.py"]).exit = .failed e ∧
        e.isReported = false := by
  have request : Request.read ["generate", "p.json", "--out", "p.json/out.py"] =
    .ok ⟨.warning, .generate (.ofText "p.json") {} (some (.ofText "p.json/out.py"))⟩ := rfl
  have ends : ∀ r, Request.read ["generate", "p.json", "--out", "p.json/out.py"] = .ok r →
      r.invocation.isWatch = false := by
    intro r accepted
    cases request.symm.trans accepted
    rfl
  have set : settingsOf {} (lone {}) (.ofText "p.json") = .ok {} := rfl
  have file_in_the_way : ¬(lone {}).Clear (.ofText "p.json") := by
    intro clear
    cases clear ⟨["p.json"]⟩ ⟨_, List.prefix_rfl, rfl⟩
  have blocked : (lone {}).Blocks (.ofText "p.json/out.py") :=
    ⟨rfl, .inl fun allows => file_in_the_way allows.clear⟩
  exact ⟨ends, (run_escapes_iff ends).2 ⟨_, request, .output set nofun load_lone_empty blocked⟩⟩

/-- A label is added at an infinity, and the run ends without a plain message. -/
theorem run_escapes_iff_infinite :
    Request.read ["add", "p.json", "label", "--x=inf"] =
        .ok ⟨.warning, .add (.ofText "p.json") "label" (.infinite false) 0 "Free"⟩ ∧
      ∃ e, (run {} (lone {}) ["add", "p.json", "label", "--x=inf"]).exit = .failed e ∧
        e.isReported = false := by
  have request : Request.read ["add", "p.json", "label", "--x=inf"] =
    .ok ⟨.warning, .add (.ofText "p.json") "label" (.infinite false) 0 "Free"⟩ := rfl
  have set : settingsOf {} (lone {}) (.ofText "p.json") = .ok {} := rfl
  have named : Kind.ofName "label" = .ok .label := rfl
  have docked : Area.ofName "Free" = .ok .free := rfl
  have infinite : snapToGrid ({} : Settings).gridSize
      (Session.cornerOf ⟨.infinite false, 0⟩ {} Kind.label.defaultSize) = .error .infinite := by
    decide +kernel
  have escapes :
      Escapes {} (lone {}) (.add (.ofText "p.json") "label" (.infinite false) 0 "Free") :=
    .point load_lone_empty set named docked infinite
  exact ⟨request, (run_escapes_iff_of_read {} request rfl).2 escapes⟩

end CommandLine

end Formwork
