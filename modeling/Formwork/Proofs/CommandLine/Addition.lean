import Formwork.Proofs.CommandLine.Effects
import Formwork.Proofs.CommandLine.Printed
import Formwork.Proofs.Session.Restored

/-!
# Adding a widget to a document

`add` reads a document and writes it again with one widget more. Everything that can stand in its
way is found out before it writes: the document, the settings, the names, the point, and then the id,
which must not be too long to be printed. The write itself succeeds, because where a document has
been read it can be written (`Project.exists_save_of_load`), and what is said of it is ASCII, which
every output takes (`CommandLine.leaves_showAdded`). So either the new document is there and
is read as the old design with the widget behind all others, or nothing has changed
(`CommandLine.load_run_add`).
-/

set_option autoImplicit false

namespace Formwork

namespace Project

/-- The design with a new widget above all others. -/
def appended (p : Project) (kind : Kind) (pos : Vec) (area : Area) : Project :=
  { p with widgets := p.widgets ++ [Session.newWidget (p.maxId + 1) kind pos area] }

variable {p : Project}

/-- Ids below the bound leave room for the next one. -/
theorem maxId_succ_lt (short : ∀ w ∈ p.widgets, w.id < 10 ^ 4300 - 1) :
    p.maxId + 1 < 10 ^ maxShownDigits := by
  have one_lt : (1 : Int) < 10 ^ maxShownDigits := one_lt_pow₀ (by decide) (by decide)
  refine Int.add_lt_of_lt_sub_right (maxId_lt (Int.sub_pos_of_lt one_lt) fun id mem => ?_)
  obtain ⟨w, there, rfl⟩ := List.mem_map.1 mem
  exact short w there

/-- A new widget may be added as long as its id is not too long for a document. -/
theorem valid_appended (valid : p.Valid) (small : p.maxId + 1 < 10 ^ Json.maxNumberLength)
    (kind : Kind) (pos : Vec) (area : Area) : (p.appended kind pos area).Valid := by
  have short := Json.isShort_of_lt (Int.le_add_one p.maxId_nonneg) small
  refine ⟨fun w mem => ?_, ?_⟩
  · rcases List.mem_append.1 mem with old | new
    · exact valid.widgets w old
    · obtain rfl := List.mem_singleton.1 new
      exact ⟨Int.le_add_of_nonneg_left p.maxId_nonneg, short, short, kind.valid_defaultProps⟩
  · rw [appended, List.map_append, List.nodup_append]
    refine ⟨valid.distinct, List.nodup_singleton _, fun id old id' new same => ?_⟩
    obtain rfl := List.mem_singleton.1 new
    have below := le_maxId old
    rw [same] at below
    exact absurd below (Int.not_le.2 (Int.lt_succ _))

/-- All controls stay within bounds in any case. -/
theorem valid_control_appended (valid : p.Valid) (kind : Kind) (pos : Vec) (area : Area) :
    ∀ w ∈ (p.appended kind pos area).widgets, w.props.control.Valid := by
  intro w mem
  rcases List.mem_append.1 mem with old | new
  · exact (valid.widgets w old).control
  · obtain rfl := List.mem_singleton.1 new
    exact kind.valid_defaultProps

end Project

/-- What a new session answers when a widget is placed: the point cannot be snapped, or the widget
is added, and then its id may be too long to be written. -/
theorem Session.place_start_cases {p : Project} (valid : p.Valid) (settings : Settings) (k : Kind)
    (point : Vec) (a : Area) :
    (∃ e s, snapToGrid settings.gridSize (cornerOf point {} k.defaultSize) = .error e ∧
      (start p settings).place k point a = (.error (.rounding e), s)) ∨
    ∃ pos s, snapToGrid settings.gridSize (cornerOf point {} k.defaultSize) = .ok pos ∧
      s.project = p.appended k pos a ∧
      ((start p settings).place k point a = (.ok (newWidget (p.maxId + 1) k pos a), s) ∨
        (start p settings).place k point a = (.error (.number .overlong), s) ∧
          ¬ p.maxId + 1 < 10 ^ Json.maxNumberLength) := by
  have snaps : (start p settings).snap (cornerOf point {} k.defaultSize) =
      (snapToGrid settings.gridSize (cornerOf point {} k.defaultSize)).mapError .rounding := rfl
  cases snapped : snapToGrid settings.gridSize (cornerOf point {} k.defaultSize) with
  | error e =>
    rw [place, snaps, snapped]
    exact .inl ⟨e, _, rfl, rfl⟩
  | ok pos =>
    obtain ⟨t, placed, project⟩ : ∃ t, (start p settings).place k point a =
        touched t (newWidget (p.maxId + 1) k pos a) ∧ t.project = p.appended k pos a := by
      rw [place, snaps, snapped]
      exact ⟨_, rfl, rfl⟩
    rw [placed]
    refine .inr ⟨pos, t.touch.2, rfl, (project_touch t).trans project, ?_⟩
    cases answer : t.touch.1 with
    | ok =>
      refine .inl (Prod.ext ?_ rfl)
      rw [touched, answer]
      rfl
    | error f =>
      obtain ⟨e, rfl, unwritten⟩ := exists_of_touch_error answer
      rw [project] at unwritten
      obtain rfl := Project.eq_overlong_of_checkNumbers
        (Project.valid_control_appended valid k pos a) unwritten
      refine .inr ⟨Prod.ext ?_ rfl, fun small => ?_⟩
      · rw [touched, answer]
        rfl
      · have written : (p.appended k pos a).checkNumbers t.comments = .ok () :=
          Project.checkNumbers_of_valid (Project.valid_appended valid small k pos a)
        cases written.symm.trans unwritten

namespace CommandLine

open Console
open Text (Raw)

/-- The design that `add` writes, where nothing stands in its way. -/
inductive Adds (host : Host) (t : FileTree) (file : Path) (kind : String) (point : Vec)
    (area : String) : Project → Prop where
  | intro {p : Project} {settings : Settings} {k : Kind} {a : Area} {pos : Vec}
    (loaded : Project.load t file = .ok p)
    (set : settingsOf host t file = .ok settings)
    (named : Kind.ofName kind = .ok k) (docked : Area.ofName area = .ok a)
    (snapped : snapToGrid settings.gridSize (Session.cornerOf point {} k.defaultSize) = .ok pos) :
    Adds host t file kind point area (p.appended k pos a)

variable {host : Host} {t : FileTree} {file : Path} {kind area : String} {point : Vec}

theorem isOverlong_eq_false {n : Int} (natural : 0 ≤ n) (small : n < 10 ^ maxShownDigits) :
    isOverlong n = false := by
  have cast : ((10 ^ maxShownDigits : Nat) : Int) = 10 ^ maxShownDigits := Int.natCast_pow ..
  unfold isOverlong
  rw [decide_eq_false_iff_not]
  omega

/-- A widget whose id is not too long is shown on every output. -/
theorem leaves_showAdded {w : Widget} {failed : FileTree → Prop} {done : Unit → FileTree → Prop}
    (short : isOverlong w.id = false) (h : done () t) :
    Leaves host (showAdded w) t failed done := by
  refine leaves_ite (fun long => absurd long (ne_true_of_eq_false short)) fun _ => ?_
  exact leaves_say (fun unprinted => nomatch (host.prints_added w).symm.trans unprinted) fun _ => h

/-- The command writes the design that it adds to, or else leaves the files as they were. -/
theorem leaves_runAdd
    (short : ∀ p, Project.load t file = .ok p → p.maxId + 1 < 10 ^ maxShownDigits) :
    Leaves host (runAdd file kind point area) t
      (fun u => u = t ∧ ∀ q, ¬Adds host t file kind point area q)
      fun _ u => ∃ q, Adds host t file kind point area q ∧ q.save file t = (.ok (), u) := by
  unfold runAdd
  refine leaves_bind (leaves_loadProject ?_ ?_)
  · exact fun e stuck => ⟨rfl, fun _ ⟨loaded, _, _, _, _⟩ => nomatch stuck.symm.trans loaded⟩
  intro p loaded
  obtain ⟨bytes, found⟩ := Project.exists_read_of_load loaded
  have path_named := (FileTree.read_eq_ok_iff.1 found).1
  refine leaves_bind (leaves_settingsFor ?_ ?_ ?_)
  · exact fun nameless => nomatch path_named.symm.trans nameless
  · exact fun e stuck => ⟨rfl, fun _ ⟨_, set, _, _, _⟩ => nomatch stuck.symm.trans set⟩
  intro settings set
  refine leaves_bind ?_
  refine leaves_check ?_ ?_
  · exact fun e stuck => ⟨rfl, fun _ ⟨_, _, named, _, _⟩ => nomatch stuck.symm.trans named⟩
  intro k named
  refine leaves_bind ?_
  refine leaves_check ?_ ?_
  · exact fun e stuck => ⟨rfl, fun _ ⟨_, _, _, docked, _⟩ => nomatch stuck.symm.trans docked⟩
  intro a docked
  have shown : isOverlong (p.maxId + 1) = false :=
    isOverlong_eq_false (Int.le_add_one p.maxId_nonneg) (short p loaded)
  rcases Session.place_start_cases (Project.valid_of_load loaded) settings k point a with
    ⟨e, s, stuck, placed⟩ | ⟨pos, s, snapped, appended, placed⟩
  · rw [placed]
    refine leaves_bind (leaves_noteGeneration (leaves_bind (leaves_throw ⟨rfl, ?_⟩)))
    rintro _ ⟨loaded', set', named', -, snapped⟩
    rw [set] at set'
    rw [named] at named'
    cases set'
    cases named'
    rw [stuck] at snapped
    cases snapped
  rcases placed with placed | ⟨-, long⟩
  · rw [placed]
    refine leaves_bind (leaves_noteGeneration (leaves_bind (leaves_pure ?_)))
    refine leaves_bind (leaves_saveProject (fun e u stuck => ?_) fun u saved => ?_)
    · obtain ⟨_, saved⟩ := Project.exists_save_of_load loaded s.project
      rw [stuck] at saved
      cases saved
    · refine leaves_showAdded shown ?_
      exact ⟨_, .intro loaded set named docked snapped, appended ▸ saved⟩
  · exact absurd (short p loaded) long

/-- **Adding appends.** Where the document is accepted, the settings beside it are there to be had
or absent, the names are known and the point can be snapped, the document that `add` leaves is the
old design with one widget more, whatever the output takes; and a command that fails, for whatever
reason, leaves all files as they were. -/
theorem load_run_add {host : Host} {files : FileTree} {arguments : List Raw} {file : Path}
    {kind area : String} {x y : Binary64}
    (request : ∀ r, Request.read arguments = .ok r → r.invocation = .add file kind x y area)
    (short : ∀ p, Project.load files file = .ok p → ∀ w ∈ p.widgets, w.id < 10 ^ 4300 - 1) :
    (∀ r p settings k a pos, Request.read arguments = .ok r → Project.load files file = .ok p →
        Settings.load host.stack files (settingsDirectory files.ground.home file) = .ok settings →
        Kind.ofName kind = .ok k → Area.ofName area = .ok a →
        snapToGrid settings.gridSize (Session.cornerOf ⟨x, y⟩ {} k.defaultSize) = .ok pos →
        (run host files arguments).exit = .done ∧
          Project.load (run host files arguments).terminal.files file = .ok { p with
            widgets := p.widgets ++ [{
              id := p.maxId + 1
              pos := pos
              size := k.defaultSize
              z := p.maxId + 1
              area := a
              props := k.defaultProps }] }) ∧
      ((run host files arguments).exit ≠ .done →
        (run host files arguments).terminal.files = files) := by
  have fits := fun p loaded => Project.maxId_succ_lt (short p loaded)
  cases accepted : Request.read arguments with
  | error e =>
    refine ⟨fun r p settings k a pos asked => ?_, fun _ => ?_⟩
    · cases asked
    · rw [run, accepted]
  | ok r =>
    have leaves : Leaves host r.invocation.run files
        (fun u => u = files ∧ ∀ q, ¬Adds host files file kind ⟨x, y⟩ area q)
        fun _ u => ∃ q, Adds host files file kind ⟨x, y⟩ area q ∧
          q.save file files = (.ok (), u) := by
      rw [request r accepted]
      exact leaves_runAdd fits
    rcases run_of_leaves accepted leaves with ⟨_, same, nothing⟩ | ⟨done, q, adds, saved⟩
    · refine ⟨fun _ p settings k a pos _ loaded set named docked snapped => ?_, fun _ => same⟩
      exact absurd (.intro loaded set named docked snapped) (nothing _)
    · refine ⟨fun _ p settings k a pos _ loaded set named docked snapped => ⟨done, ?_⟩,
        fun failed => absurd done failed⟩
      obtain ⟨loaded', set', named', docked', snapped'⟩ := adds
      cases loaded.symm.trans loaded'
      cases set.symm.trans set'
      cases named.symm.trans named'
      cases docked.symm.trans docked'
      cases snapped.symm.trans snapped'
      have valid := Project.valid_appended (Project.valid_of_load loaded) (fits p loaded) k pos a
      exact Project.load_of_save valid saved rfl

/-- A project of one separator at the depth `z`. -/
def separatorAt (z : Int) : Project where
  widgets := [{ id := 1, size := {}, z := z, props := { control := .separator } }]

theorem valid_separatorAt {z : Int} (short : Json.IsShort z) : (separatorAt z).Valid := by
  refine ⟨fun w hw => ?_, List.nodup_singleton _⟩
  obtain rfl := List.mem_singleton.1 hw
  have one_short : Json.IsShort 1 := by decide
  exact ⟨Int.le_refl 1, one_short, short, trivial⟩

/-- A design in the only file there is. -/
def lone (p : Project) : FileTree where
  entries := [(⟨["p.json"]⟩, .file p.encode.toUTF8)]

/-- A label is added to a separator. -/
theorem load_run_add_separator :
    (∀ r, Request.read ["add", "p.json", "label"] = .ok r →
        r.invocation = .add (.ofText "p.json") "label" 0 0 "Free") ∧
      Project.load (lone (separatorAt 7)) (.ofText "p.json") = .ok (separatorAt 7) ∧
      (run {} (lone (separatorAt 7)) ["add", "p.json", "label"]).exit = .done ∧
      Project.load (run {} (lone (separatorAt 7)) ["add", "p.json", "label"]).terminal.files
          (.ofText "p.json") = .ok { separatorAt 7 with
        widgets := (separatorAt 7).widgets ++ [{
          id := 2
          pos := ⟨-70, -12⟩
          size := Kind.label.defaultSize
          z := 2
          area := .free
          props := Kind.label.defaultProps }] } := by
  have request : Request.read ["add", "p.json", "label"] =
      .ok ⟨.warning, .add (.ofText "p.json") "label" 0 0 "Free"⟩ := rfl
  have asks : ∀ r, Request.read ["add", "p.json", "label"] = .ok r →
      r.invocation = .add (.ofText "p.json") "label" 0 0 "Free" := by
    intro r accepted
    cases request.symm.trans accepted
    rfl
  have loaded : Project.load (lone (separatorAt 7)) (.ofText "p.json") = .ok (separatorAt 7) :=
    Project.load_of_read_encode (valid_separatorAt (by decide)) rfl
  have short : ∀ p, Project.load (lone (separatorAt 7)) (.ofText "p.json") = .ok p →
      ∀ w ∈ p.widgets, w.id < 10 ^ 4300 - 1 := by
    intro p loaded' w mem
    cases loaded.symm.trans loaded'
    obtain rfl := List.mem_singleton.1 mem
    have two_lt : (1 : Int) + 1 < 10 ^ 4300 :=
      calc (1 : Int) + 1 < 10 ^ 1 := by decide
        _ ≤ 10 ^ 4300 := pow_le_pow_right₀ (by decide) (by decide)
    exact Int.lt_sub_right_of_add_lt two_lt
  have snapped : snapToGrid ({} : Settings).gridSize
      (Session.cornerOf ⟨0, 0⟩ {} Kind.label.defaultSize) = .ok ⟨-70, -12⟩ := by decide +kernel
  refine ⟨asks, loaded, ?_⟩
  exact (load_run_add asks short).1 _ _ {} .label .free _ request loaded rfl rfl rfl snapped

end CommandLine

end Formwork
