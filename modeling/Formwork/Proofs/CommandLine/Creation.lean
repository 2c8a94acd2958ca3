import Formwork.Proofs.CommandLine.Effects

/-!
# Making a new document

`new` writes no document where it finds something, unless it is forced. It looks before the
directories that the path lacks are made, and a path through a missing directory leads nowhere then.
Once they are there it may lead to an old file: in `x/../f.json` the directory `x` is made, and
`f.json` is written over. `CommandLine.bytes_run_new_iff` says that this is the one way to lose a
file, and `CommandLine.bytes_run_new_lost` shows it.
-/

set_option autoImplicit false

namespace Formwork

/-- The empty design on a canvas, with the chosen panels switched on. -/
def Project.blank (canvas : Vec) (chosen : List Panel) : Project :=
  { canvas, panels := chosen.foldl (fun ps panel => ps.set panel true) {} }

namespace CommandLine

open Console
open Text (Raw)

/-- The files that `new` leaves, where nothing stands in its way. -/
inductive Creates (t : FileTree) (file : Path) (canvas : Vec) (panels : String) (force : Bool) :
    FileTree → Prop where
  | intro {chosen : List Panel} {u : FileTree} (free : t.contains file = .ok true → force = true)
    (read : panelsOf panels = .ok chosen)
    (saved : (Project.blank canvas chosen).save file t = (.ok (), u)) :
    Creates t file canvas panels force u

variable {host : Host} {t : FileTree} {file : Path} {canvas : Vec} {panels : String} {force : Bool}

/-- The command writes a new document, or else changes no file. That the document is there does not
mean that it could be said. -/
theorem leaves_runNew : Leaves host (runNew file canvas panels force) t
    (fun u => (t.SameFiles u ∧ ∀ v, ¬Creates t file canvas panels force v) ∨
      host.prints ("Created " ++ file.raw ++ "\n") = false ∧ Creates t file canvas panels force u)
    fun _ u => Creates t file canvas panels force u := by
  unfold runNew
  refine leaves_bind (leaves_get fun terminal files => ?_)
  rw [files]
  refine leaves_bind (leaves_check (fun e unseen => ?_) fun found seen => ?_)
  · obtain ⟨-, _, -, barred⟩ := FileTree.contains_error unseen
    exact .inl ⟨.refl t, fun _ ⟨_, _, saved⟩ => barred (Project.of_save_ok saved).2.1⟩
  extract_lets written
  have writes (free : t.contains file = .ok true → force = true) : Leaves host (written ()) t
      (fun u => (t.SameFiles u ∧ ∀ v, ¬Creates t file canvas panels force v) ∨
        host.prints ("Created " ++ file.raw ++ "\n") = false ∧ Creates t file canvas panels force u)
      fun _ u => Creates t file canvas panels force u := by
    refine leaves_bind ?_
    refine leaves_check ?_ ?_
    · exact fun e stuck => .inl ⟨.refl t, fun _ ⟨_, read, _⟩ => nomatch stuck.symm.trans read⟩
    intro chosen read
    refine leaves_bind (leaves_saveProject (fun e u stuck => ?_) fun u saved => ?_)
    · refine .inl ⟨(Project.of_save_error stuck).1, fun _ ⟨_, read', saved⟩ => ?_⟩
      cases read.symm.trans read'
      cases stuck.symm.trans saved
    · have creates := Creates.intro free read saved
      exact leaves_say (fun unprinted => .inr ⟨unprinted, creates⟩) fun _ => creates
  refine leaves_ite (fun refused => ?_) fun free => writes fun there => ?_
  · obtain ⟨there, unforced⟩ := Bool.and_eq_true_iff.1 refused
    refine leaves_bind (leaves_throw (.inl ⟨.refl t, fun _ ⟨free, _, _⟩ => ?_⟩))
    rw [free (there ▸ seen)] at unforced
    cases unforced
  · cases seen.symm.trans there
    simpa using free

/-- A new document is written over an old file where the way leads through a directory that is
missing, and no file is in the way. -/
theorem bytes_run_new_of_missing (host : Host) {files : FileTree} {arguments : List Raw}
    {threshold : Severity} {width height : Binary64} {chosen : List Panel} {bytes : ByteArray}
    (request : Request.read arguments = .ok ⟨threshold, .new file width height panels false⟩)
    (read : panelsOf panels = .ok chosen) (named : file.isNameable = true)
    (passes : files.Passes file) (clear : files.Clear file.parent)
    (missing : ¬files.Open file.parent) (old : files.bytes? (files.place file) = some bytes) :
    (run host files arguments).terminal.files.bytes? (files.place file) =
      some (Project.blank ⟨width, height⟩ chosen).encode.toUTF8 := by
  have unseen : files.contains file ≠ .ok true := fun there =>
    missing (FileTree.contains_iff.1 there).2.2.1
  obtain ⟨u, saved⟩ := (Project.blank ⟨width, height⟩ chosen).exists_save named passes clear old
  have written {u : FileTree} (creates : Creates files file ⟨width, height⟩ panels false u) :
      u.bytes? (files.place file) = some (Project.blank ⟨width, height⟩ chosen).encode.toUTF8 := by
    obtain ⟨-, read', saved⟩ := creates
    cases read.symm.trans read'
    have found := (FileTree.read_eq_ok_iff.1 (Project.read_of_save saved)).2.2.2
    rwa [(Project.of_save_ok saved).2.2.2.2.keeps.place_eq] at found
  rcases run_of_leaves request leaves_runNew with ⟨-, ⟨-, nothing⟩ | ⟨-, creates⟩⟩ | ⟨-, creates⟩
  · exact absurd (.intro (absurd · unseen) read saved) (nothing u)
  · exact written creates
  · exact written creates

/-- **What a new document may cost.** Without force, all files that there were are kept exactly if no
file lies where the path resolves to while a directory on the way is missing and none of them is a
file; or if that file is the new document already. -/
theorem bytes_run_new_iff {host : Host} {files : FileTree} {arguments : List Raw}
    {threshold : Severity} {file : Path} {width height : Binary64} {panels : String}
    (request : Request.read arguments = .ok ⟨threshold, .new file width height panels false⟩) :
    (∀ l bytes, files.bytes? l = some bytes →
        (run host files arguments).terminal.files.bytes? l = some bytes) ↔
      ∀ chosen bytes, panelsOf panels = .ok chosen → file.isNameable = true → files.Passes file →
        files.Clear file.parent → ¬files.Open file.parent →
        files.bytes? (files.place file) = some bytes →
        bytes = (Project.blank ⟨width, height⟩ chosen).encode.toUTF8 := by
  constructor
  · intro kept chosen bytes read named passes clear missing old
    have written := bytes_run_new_of_missing host request read named passes clear missing old
    exact Option.some.inj ((kept _ _ old).symm.trans written)
  · intro harmless l bytes old
    have keeps {u : FileTree} (creates : Creates files file ⟨width, height⟩ panels false u) :
        u.bytes? l = some bytes := by
      obtain ⟨free, read, saved⟩ := creates
      obtain ⟨named, passes, clear, -, changes⟩ := Project.of_save_ok saved
      by_cases written : l = files.place file
      · subst written
        -- The file was there already, and `contains` has not seen it.
        have missing : ¬files.Open file.parent := by
          intro inside
          have there : files.contains file = .ok true := by
            rw [FileTree.contains_iff, FileTree.bytes?_eq_some.1 old]
            exact ⟨named, passes, inside, rfl⟩
          cases free there
        rw [harmless _ _ read named passes clear missing old]
        have found := (FileTree.read_eq_ok_iff.1 (Project.read_of_save saved)).2.2.2
        rwa [changes.keeps.place_eq] at found
      · rw [changes.bytes l written, old]
    rcases run_of_leaves request leaves_runNew with ⟨-, ⟨same, -⟩ | ⟨-, creates⟩⟩ | ⟨-, creates⟩
    · rw [same.bytes?_eq, old]
    · exact keeps creates
    · exact keeps creates

/-- A file that nobody wants to lose, and what else there is. -/
def precious (others : List (Location × FileEntry)) : FileTree where
  entries := others ++ [(⟨["f.json"]⟩, .file "precious".toUTF8)]

/-- What `new x/../f.json` asks for. -/
def roundabout : Request :=
  ⟨.warning, .new (.ofText "x/../f.json") 800 600 "" false⟩

theorem prefix_roundabout {ss : List Raw} (start : ss <+: ["x", ".."]) :
    ss = [] ∨ ss = ["x"] ∨ ss = ["x", ".."] := by
  simp only [List.prefix_cons_iff, List.prefix_nil] at start
  obtain rfl | ⟨_, rfl, rfl | ⟨_, rfl, rfl⟩⟩ := start <;> simp

/-- Nothing is lost where the way leads through a directory and back. -/
theorem bytes_run_new_kept :
    Request.read ["new", "x/../f.json"] = .ok roundabout ∧
      ∀ l bytes, (precious [(⟨["x"]⟩, .directory)]).bytes? l = some bytes →
        (run {} (precious [(⟨["x"]⟩, .directory)])
          ["new", "x/../f.json"]).terminal.files.bytes? l = some bytes := by
  have request : Request.read ["new", "x/../f.json"] = .ok roundabout := rfl
  have inside : (precious [(⟨["x"]⟩, .directory)]).Open (.ofText "x/..") := by
    rintro l ⟨ss, start, rfl⟩
    obtain rfl | rfl | rfl := prefix_roundabout start <;> rfl
  exact ⟨request, (bytes_run_new_iff request).2 fun _ _ _ _ _ _ missing => absurd inside missing⟩

/-- The file is lost where the directory on the way has to be made. -/
theorem bytes_run_new_lost :
    Request.read ["new", "x/../f.json"] = .ok roundabout ∧
      (precious []).bytes? ⟨["f.json"]⟩ = some "precious".toUTF8 ∧
      (run {} (precious []) ["new", "x/../f.json"]).terminal.files.bytes? ⟨["f.json"]⟩ =
        some (Project.blank ⟨800, 600⟩ []).encode.toUTF8 ∧
      (Project.blank ⟨800, 600⟩ []).encode ≠ "precious" := by
  have request : Request.read ["new", "x/../f.json"] = .ok roundabout := rfl
  have clear : (precious []).Clear (.ofText "x/..") := by
    rintro l ⟨ss, start, rfl⟩
    obtain rfl | rfl | rfl := prefix_roundabout start <;> rfl
  have missing : ¬(precious []).Open (.ofText "x/..") := by
    intro inside
    cases inside ⟨["x"]⟩ ⟨["x"], ⟨[".."], rfl⟩, rfl⟩
  have passes : (precious []).Passes (.ofText "x/../f.json") := ⟨rfl, rfl, rfl, rfl, trivial⟩
  have old : (precious []).bytes? ((precious []).place (.ofText "x/../f.json")) =
    some "precious".toUTF8 := rfl
  refine ⟨request, rfl, bytes_run_new_of_missing {} request rfl rfl passes clear missing old, ?_⟩
  decide +kernel

end CommandLine

end Formwork
