import Formwork.Proofs.Session.Generating
import Mathlib.Data.List.Forall2

/-!
# What a failed command has written

A command that fails still leaves a desk behind, and one would like the design on it to be the one
before. A command can fail at two points.

It fails itself. Most commands settle everything that can fail before they write to the design. Two
do not: docking a widget in another area writes the area before the position is moved to the grid,
and moving the selection writes the horizontal coordinate of the first widget before the vertical
count is found to be too large (`Session.Writes`). Or it is done and has changed the design, and the
module that is generated after the change has a number that cannot be written. The change stays.

The two are told apart by what the command does in a session that generates nothing unasked
(`Desk.unattended`): `Outlook` has one case for each of the ways in which the one and the other
session go, and `outlook_run` is the only place where the commands are told apart.
-/

set_option autoImplicit false

namespace Formwork

namespace Project

/-- The designs have the same widgets in the same order, up to their areas and their horizontal
coordinates, and nothing else differs. -/
structure Grazed (p q : Project) : Prop where
  widgets : List.Forall₂ (fun w v => v = { w with area := v.area, pos := ⟨v.pos.x, w.pos.y⟩ })
    p.widgets q.widgets
  canvas : q.canvas = p.canvas
  panels : q.panels = p.panels

theorem Grazed.refl (p : Project) : p.Grazed p :=
  ⟨List.forall₂_same.2 fun _ _ => rfl, rfl, rfl⟩

theorem grazed_update {p : Project} {id : Int} {change : Widget → Widget}
    (grazes : ∀ w, change w =
      { w with area := (change w).area, pos := ⟨(change w).pos.x, w.pos.y⟩ }) :
    p.Grazed (p.update id change) := by
  refine ⟨?_, rfl, rfl⟩
  rw [update, List.forall₂_map_right_iff, List.forall₂_same]
  intro w _
  by_cases named : (w.id == id) = true
  · rw [if_pos named]
    exact grazes w
  · rw [if_neg named]

/-- A change of the widgets with an id is no change exactly when each of them is already as it
would become. -/
theorem update_eq_self_iff {p : Project} {id : Int} {change : Widget → Widget} :
    p.update id change = p ↔ ∀ w ∈ p.widgets, w.id = id → change w = w := by
  constructor
  · intro same w mem named
    have widgets : (p.widgets.map fun w => if w.id == id then change w else w) =
        p.widgets.map fun w => w := (congrArg Project.widgets same).trans (List.map_id' _).symm
    have first := List.map_inj_left.1 widgets w mem
    rwa [if_pos (beq_iff_eq.2 named)] at first
  · intro same
    have widgets : (p.widgets.map fun w => if w.id == id then change w else w) = p.widgets := by
      refine (List.map_congr_left fun w mem => ?_).trans (List.map_id' _)
      by_cases named : w.id = id
      · rw [if_pos (beq_iff_eq.2 named)]
        exact same w mem named
      · rw [if_neg (mt beq_iff_eq.1 named)]
    rw [update, widgets]

end Project

namespace Session

variable {s : Session}

/-- The session that generates nothing unasked. -/
def unattended (s : Session) : Session := { s with autoGenerate := false }

/-! ## What a command writes before it fails -/

/-- The design after a horizontal step of the widget selected first, where there is one and the
count is a number. -/
def firstMoved (s : Session) (dx : Int) : Project :=
  match s.primary, Binary64.ofInt? dx with
  | some first, some nx =>
    s.project.update first.id fun w => w.moveTo .horizontal (stepped s.stepLength nx w.pos.x)
  | _, _ => s.project

/-- The design that a command leaves when it fails itself. -/
def written (s : Session) : Command → Project
  | .setArea id area => s.project.update id fun w => { w with area }
  | .nudge dx _ => s.firstMoved dx
  | _ => s.project

/-! ## With and without generating -/

/-- How a command goes in a session, and in one that generates nothing unasked. -/
inductive Outlook {α : Type} (s : Session) (c : Command) (o o' : Outcome α) : Prop where
  | answers {a : α} {t : Session} (attended : o = (.ok a, t)) (alone : o' = (.ok a, t.unattended))
  /-- The change is the same, but one session generates after it. -/
  | generates {a : α} {t : Session} (attended : o = t.touched a)
    (alone : o' = (.ok a, t.unattended))
  | fails {e : Fault} {t : Session} (attended : o = (.error e, t))
    (alone : o' = (.error e, t.unattended)) (project : t.project = s.written c)

theorem touch_eq_touched (t : Session) : t.touch = t.touched () := by
  unfold touched
  cases answer : t.touch.1 with
  | error e => exact Prod.ext answer rfl
  | ok => exact Prod.ext answer rfl

namespace Outlook

variable {c : Command}

/-- A command that ends by generating and has no other answer. -/
theorem of_touch {o o' : Outcome Unit} {t : Session} (attended : o = t.touch)
    (alone : o' = (.ok (), t.unattended)) : Outlook s c o o' :=
  .generates (attended.trans t.touch_eq_touched) alone

theorem map {α β : Type} {o o' : Outcome α} (h : Outlook s c o o') (reply : α → β) :
    Outlook s c (o.1.map reply, o.2) (o'.1.map reply, o'.2) := by
  cases h with
  | answers attended alone =>
    rw [attended, alone]
    exact .answers rfl rfl
  | @generates a t attended alone =>
    rw [attended, alone]
    refine .generates (a := reply a) (t := t) (Prod.ext ?_ rfl) rfl
    unfold touched
    cases t.touch.1 with
    | error e => rfl
    | ok => rfl
  | fails attended alone project =>
    rw [attended, alone]
    exact .fails rfl rfl project

end Outlook

theorem outlook_place (kind : Kind) (center : Vec) (area : Area) (origin : Vec) :
    Outlook s (.place kind center area origin) (s.place kind center area origin)
      (s.unattended.place kind center area origin) := by
  have snap : s.unattended.snap = s.snap := rfl
  unfold place
  rw [snap]
  cases s.snap (cornerOf center origin kind.defaultSize) with
  | error e => exact .fails rfl rfl rfl
  | ok pos => exact .generates rfl rfl

theorem outlook_delete (id : Int) : Outlook s (.delete id) (s.delete id) (s.unattended.delete id) := by
  have project : s.unattended.project = s.project := rfl
  unfold delete
  rw [project]
  dsimp only
  split
  next => exact .generates rfl rfl
  next => exact .answers rfl rfl

theorem outlook_deleteSelected :
    Outlook s .deleteSelected s.deleteSelected s.unattended.deleteSelected := by
  have project : s.unattended.project = s.project := rfl
  have selected : s.unattended.isSelected = s.isSelected := rfl
  unfold deleteSelected
  rw [project, selected]
  dsimp only
  split
  next => exact .answers rfl rfl
  next => exact .generates rfl rfl

theorem unattended_cloneEach (sources : List Widget) (s : Session) :
    s.unattended.cloneEach sources = (s.cloneEach sources).unattended := by
  induction sources generalizing s with
  | nil => rfl
  | cons w ws ih => exact ih (s.clone w)

theorem outlook_duplicateSelected :
    Outlook s .duplicateSelected s.duplicateSelected s.unattended.duplicateSelected := by
  have selected : s.unattended.selectedWidgets = s.selectedWidgets := rfl
  unfold duplicateSelected
  rw [selected]
  cases s.selectedWidgets with
  | nil => exact .answers rfl rfl
  | cons first rest =>
    dsimp only
    rw [unattended_cloneEach]
    exact .generates rfl rfl

theorem outlook_copy : Outlook s .copy s.copy s.unattended.copy := by
  have primary : s.unattended.primary = s.primary := rfl
  unfold copy
  rw [primary]
  cases s.primary with
  | none => exact .answers rfl rfl
  | some w => exact .answers rfl rfl

theorem outlook_paste : Outlook s .paste s.paste s.unattended.paste := by
  have clipboard : s.unattended.clipboard = s.clipboard := rfl
  unfold paste
  rw [clipboard]
  cases s.clipboard with
  | none => exact .answers rfl rfl
  | some source => exact .generates rfl rfl

theorem unattended_updateEach (ids : List Int) (change : Widget → Widget) (s : Session) :
    s.unattended.updateEach ids change = (s.updateEach ids change).unattended := by
  induction ids generalizing s with
  | nil => rfl
  | cons id ids ih => exact ih (s.update id change)

theorem unattended_stack (ids : List Int) (z step : Int) (s : Session) :
    s.unattended.stack z step ids = (s.stack z step ids).unattended := by
  induction ids generalizing s z with
  | nil => rfl
  | cons id ids ih => exact ih (z + step) (s.update id fun w => { w with z })

theorem unattended_layOut (ws : List Widget) (axis : Axis) (gap x : Binary64) (s : Session) :
    s.unattended.layOut axis gap x ws = (s.layOut axis gap x ws).unattended := by
  induction ws generalizing s x with
  | nil => rfl
  | cons w ws ih => exact ih _ (s.update w.id (Widget.moveTo axis x))

theorem outlook_nudge (dx dy : Int) :
    Outlook s (.nudge dx dy) (s.nudge dx dy) (s.unattended.nudge dx dy) := by
  have selected : s.unattended.selectedWidgets = s.selectedWidgets := rfl
  have length : s.unattended.stepLength = s.stepLength := rfl
  unfold nudge
  rw [selected, length]
  cases selection : s.selectedWidgets with
  | nil => exact .of_touch rfl rfl
  | cons first rest =>
    have primary : s.primary = some first := congrArg List.head? selection
    cases horizontal : Binary64.ofInt? dx with
    | none =>
      refine .fails rfl rfl ?_
      rw [written, firstMoved, primary, horizontal]
    | some nx =>
      cases Binary64.ofInt? dy with
      | none =>
        refine .fails rfl rfl ?_
        rw [written, firstMoved, primary, horizontal]
        rfl
      | some ny =>
        dsimp only
        rw [unattended_updateEach]
        exact .of_touch rfl rfl

theorem outlook_align (axis : Axis) (how : Alignment) :
    Outlook s (.align axis how) (s.align axis how) (s.unattended.align axis how) := by
  have arranged : s.unattended.arranged = s.arranged := rfl
  unfold align
  rw [arranged]
  cases s.arranged 2 with
  | nil => exact .answers rfl rfl
  | cons first rest =>
    dsimp only
    rw [unattended_updateEach]
    exact .of_touch rfl rfl

theorem outlook_matchExtent (axis : Axis) :
    Outlook s (.matchExtent axis) (s.matchExtent axis) (s.unattended.matchExtent axis) := by
  have arranged : s.unattended.arranged = s.arranged := rfl
  unfold matchExtent
  rw [arranged]
  cases s.arranged 2 with
  | nil => exact .answers rfl rfl
  | cons first rest =>
    dsimp only
    rw [unattended_updateEach]
    exact .of_touch rfl rfl

theorem outlook_distribute (axis : Axis) :
    Outlook s (.distribute axis) (s.distribute axis) (s.unattended.distribute axis) := by
  have arranged : s.unattended.arranged = s.arranged := rfl
  unfold distribute
  rw [arranged]
  dsimp only
  split
  next =>
    split
    next => exact .answers rfl rfl
    next =>
      rw [unattended_layOut]
      exact .of_touch rfl rfl
  next => exact .answers rfl rfl

theorem outlook_setItems (id : Int) (items : List String) :
    Outlook s (.setItems id items) (s.setItems id items) (s.unattended.setItems id items) := by
  have widget : s.unattended.widget = s.widget := rfl
  unfold setItems
  rw [widget]
  cases s.widget id with
  | error e => exact .fails rfl rfl rfl
  | ok w =>
    dsimp only
    cases w.props.withItems? items with
    | none => exact .fails rfl rfl rfl
    | some props => exact .generates rfl rfl

/-- Where there is no widget to dock, the area is written nowhere. -/
theorem update_of_widget_eq_error {id : Int} {e : Fault} (missing : s.widget id = .error e)
    (change : Widget → Widget) : s.project.update id change = s.project := by
  apply Project.update_eq_self_iff.2
  intro w mem named
  exfalso
  unfold widget at missing
  split at missing
  next => cases missing
  next none => exact List.find?_eq_none.1 none w mem (beq_iff_eq.2 named)

theorem outlook_setArea (id : Int) (area : Area) :
    Outlook s (.setArea id area) (s.setArea id area) (s.unattended.setArea id area) := by
  have widget : s.unattended.widget = s.widget := rfl
  have snap : s.unattended.snap = s.snap := rfl
  unfold setArea
  rw [widget, snap]
  cases found : s.widget id with
  | error e => exact .fails rfl rfl (update_of_widget_eq_error found _).symm
  | ok w =>
    dsimp only
    cases s.snap w.pos with
    | error e => exact .fails rfl rfl rfl
    | ok pos => exact .generates rfl rfl

theorem outlook_setPanelEnabled (area : Area) (enabled : Bool) :
    Outlook s (.setPanelEnabled area enabled) (s.setPanelEnabled area enabled)
      (s.unattended.setPanelEnabled area enabled) := by
  have project : s.unattended.project = s.project := rfl
  unfold setPanelEnabled
  rw [project]
  cases s.project.setEnabled area enabled with
  | error e => exact .fails rfl rfl rfl
  | ok project => exact .of_touch rfl rfl

theorem outlook_load (files : FileTree) (path : Text.Raw) :
    Outlook s (.load path) (s.load files path) (s.unattended.load files path) := by
  unfold load
  cases Project.load files (.ofText path) with
  | error e =>
    cases e with
    | nameless flaw => exact .fails rfl rfl rfl
    | document e => exact .answers rfl rfl
  | ok project => exact .generates rfl rfl

theorem outlook_save (files : FileTree) (path : Option Text.Raw) :
    Outlook s (.save path) (s.save files path).1 (s.unattended.save files path).1 := by
  have current : s.unattended.currentFile = s.currentFile := rfl
  have project : s.unattended.project = s.project := rfl
  unfold save
  rw [current, project]
  cases (path.map Path.ofText <|> s.currentFile) with
  | none => exact .answers rfl rfl
  | some target =>
    dsimp only
    split
    next => exact .fails rfl rfl rfl
    next => exact .answers rfl rfl
    next => exact .answers rfl rfl

theorem outlook_importText (text : String) :
    Outlook s (.importText text) (s.importText text) (s.unattended.importText text) := by
  unfold importText
  cases Project.ofText text with
  | error e => exact .answers rfl rfl
  | ok project => exact .generates rfl rfl

theorem outlook_generate : Outlook s .generate s.generate s.unattended.generate := by
  have project : s.unattended.project = s.project := rfl
  have format : s.unattended.format = s.format := rfl
  have comments : s.unattended.comments = s.comments := rfl
  unfold generate
  rw [project, format, comments]
  cases s.project.checkedGenerate s.format s.comments with
  | error e => exact .fails rfl rfl rfl
  | ok text => exact .answers rfl rfl

end Session

/-- What a command answers, and the session it leaves on the desk. -/
def Command.outcome (c : Command) (d : Desk) : Outcome Reply := ((c.run d).1, (c.run d).2.session)

/-- The desk with a session that generates nothing unasked. -/
def Desk.unattended (d : Desk) : Desk := { d with session := d.session.unattended }

namespace Session

/-- How a command goes with and without generating, on whatever desk it is given. -/
theorem outlook_run (c : Command) (d : Desk) :
    Outlook d.session c (c.outcome d) (c.outcome d.unattended) := by
  cases c with
  | place kind center area origin => exact (outlook_place kind center area origin).map _
  | delete id => exact (outlook_delete id).map _
  | deleteSelected => exact outlook_deleteSelected.map _
  | duplicateSelected => exact outlook_duplicateSelected.map _
  | copy => exact outlook_copy.map _
  | paste => exact outlook_paste.map _
  | nudge dx dy => exact (outlook_nudge dx dy).map _
  | bringToFront => exact .answers rfl (congrArg _ (unattended_stack ..))
  | sendToBack => exact .answers rfl (congrArg _ (unattended_stack ..))
  | align axis how => exact (outlook_align axis how).map _
  | matchExtent axis => exact (outlook_matchExtent axis).map _
  | distribute axis => exact (outlook_distribute axis).map _
  | setItems id items => exact (outlook_setItems id items).map _
  | setArea id area => exact (outlook_setArea id area).map _
  | setPanelEnabled area enabled => exact (outlook_setPanelEnabled area enabled).map _
  | load path => exact (outlook_load d.files path).map _
  | save path => exact (outlook_save d.files path).map _
  | importText text => exact (outlook_importText text).map _
  | generate => exact outlook_generate.map _
  | touch => exact (Outlook.of_touch rfl rfl).map _
  | selectSingle _ | toggleSelection _ | addToSelection _ | clearSelection | selectAll
  | newProject => exact .answers rfl rfl

variable {s : Session}

/-! ## What that does to the design -/

theorem grazed_written (c : Command) : s.project.Grazed (s.written c) := by
  cases c with
  | setArea => exact Project.grazed_update fun _ => rfl
  | nudge dx dy =>
    show s.project.Grazed (s.firstMoved dx)
    unfold firstMoved
    split
    next => exact Project.grazed_update fun _ => rfl
    next => exact .refl s.project
  | _ => exact .refl s.project

/-- The commands that write something new to the design before all that can fail is settled. -/
inductive Writes (s : Session) : Command → Prop where
  /-- The area is written before the position is moved to the grid. -/
  | docking {id : Int} {area : Area} {w : Widget} (mem : w ∈ s.project.widgets) (named : w.id = id)
    (other : w.area ≠ area) : Writes s (.setArea id area)
  /-- The first selected widget makes its horizontal step before the vertical count is read. -/
  | stepping {dx dy : Int} {nx : Binary64} {first w : Widget} (primary : s.primary = some first)
    (count : Binary64.ofInt? dx = some nx) (mem : w ∈ s.project.widgets) (named : w.id = first.id)
    (moves : stepped s.stepLength nx w.pos.x ≠ w.pos.x) : Writes s (.nudge dx dy)

theorem moveTo_horizontal_eq_self_iff {w : Widget} {x : Binary64} :
    w.moveTo .horizontal x = w ↔ x = w.pos.x := by
  constructor
  · intro same
    exact congrArg (fun v : Widget => v.pos.x) same
  · intro same
    rw [same]
    rfl

theorem firstMoved_eq_iff {dx dy : Int} :
    s.firstMoved dx = s.project ↔ ¬ s.Writes (.nudge dx dy) := by
  constructor
  · intro same writes
    cases writes with
    | stepping primary count mem named moves =>
      rw [firstMoved, primary, count] at same
      have still := Project.update_eq_self_iff.1 same _ mem named
      exact moves (moveTo_horizontal_eq_self_iff.1 still)
  · intro idle
    unfold firstMoved
    split
    next first nx primary count =>
      apply Project.update_eq_self_iff.2
      intro w mem named
      apply moveTo_horizontal_eq_self_iff.2
      by_contra moves
      exact idle (.stepping primary count mem named moves)
    next => rfl

theorem written_eq_iff (c : Command) : s.written c = s.project ↔ ¬ s.Writes c := by
  cases c with
  | nudge dx dy => exact firstMoved_eq_iff
  | setArea id area =>
    constructor
    · intro same writes
      cases writes with
      | docking mem named other =>
        have still := Project.update_eq_self_iff.1 same _ mem named
        exact other (congrArg Widget.area still).symm
    · intro idle
      apply Project.update_eq_self_iff.2
      intro w mem named
      by_contra changes
      refine idle (.docking mem named fun same => changes ?_)
      rw [← same]
  | _ => exact ⟨fun _ => nofun, fun _ => rfl⟩

end Session

/-- The commands that leave a new design when they fail. -/
inductive Desk.Spoils (d : Desk) (c : Command) : Prop where
  /-- The command fails itself, and has written something before. -/
  | ahead {e : Fault} (failed : (c.outcome d.unattended).1 = .error e)
    (writes : d.session.Writes c)
  /-- The command is done and has changed the design, of which no module can be generated then. -/
  | behind {r : Reply} {e : Fault} (auto : d.session.autoGenerate = true)
    (done : (c.outcome d.unattended).1 = .ok r)
    (changed : (c.outcome d.unattended).2.project ≠ d.session.project)
    (unwritten : (c.outcome d.unattended).2.generate.1 = .error e)

namespace Session

variable {s : Session}

/-- Generating goes by the design and by how it is written, whether or not it is wanted. -/
theorem fst_generate_unattended (s : Session) : s.unattended.generate.1 = s.generate.1 := by
  have same : s.unattended.project.checkedGenerate s.unattended.format s.unattended.comments =
    s.project.checkedGenerate s.format s.comments := rfl
  rw [generate, generate, same]
  cases s.project.checkedGenerate s.format s.comments with
  | error => rfl
  | ok => rfl

/-- A command that fails after its change fails in generating. -/
theorem generate_unattended_of_touched {α : Type} {a : α} {e : Fault}
    (failed : (s.touched a).1 = .error e) : s.unattended.generate.1 = .error e := by
  rw [fst_generate_unattended]
  unfold touched touch at failed
  split at failed
  next =>
    cases answer : s.generate.1 with
    | error n =>
      rw [answer] at failed
      exact congrArg Except.error (Except.error.inj failed)
    | ok =>
      rw [answer] at failed
      cases failed
  next => cases failed

theorem unattended_eq_self (off : s.autoGenerate = false) : s.unattended = s := by
  unfold unattended
  rw [← off]

/-- A command goes otherwise only where generating is wanted. -/
theorem autoGenerate_of_ne {c : Command} {d : Desk} (other : c.outcome d ≠ c.outcome d.unattended) :
    d.session.autoGenerate = true := by
  by_contra off
  have quiet := unattended_eq_self (Bool.eq_false_of_not_eq_true off)
  exact other (congrArg (fun s => c.outcome ⟨s, d.files⟩) quiet.symm)

/-- A command that fails itself spoils the design exactly if it had written ahead. -/
theorem spoils_iff_writes {c : Command} {d : Desk} {e : Fault}
    (broken : (c.outcome d.unattended).1 = .error e) : d.Spoils c ↔ d.session.Writes c := by
  constructor
  · intro spoils
    cases spoils with
    | ahead _ writes => exact writes
    | behind _ done _ _ => cases broken.symm.trans done
  · exact .ahead broken

/-- A command after which no module can be generated spoils the design exactly if it changes it. -/
theorem spoils_iff_changes {c : Command} {d : Desk} {r : Reply} {t : Session} {e : Fault}
    (attended : c.outcome d = t.touched r) (failed : (t.touched r).1 = .error e)
    (alone : c.outcome d.unattended = (.ok r, t.unattended)) :
    d.Spoils c ↔ t.project ≠ d.session.project := by
  constructor
  · intro spoils
    cases spoils with
    | ahead broken _ =>
      rw [alone] at broken
      cases broken
    | behind _ _ changed _ =>
      rw [alone] at changed
      exact changed
  · intro changed
    have other : c.outcome d ≠ c.outcome d.unattended := by
      intro same
      rw [← attended, same, alone] at failed
      cases failed
    refine .behind (r := r) (e := e) (autoGenerate_of_ne other) (congrArg Prod.fst alone) ?_ ?_
    · rw [alone]
      exact changed
    · rw [alone]
      exact generate_unattended_of_touched failed

/-- **What a failed command leaves.** The design is the one before unless the command spoils it: it
had written ahead, or it was done and the module could not be generated. In the first case every
widget is still in its place, and as it was but for its area and its horizontal coordinate; in the
second the design is that of a session where nothing is generated and the command succeeds. -/
theorem project_eq_iff_of_error {c : Command} {d : Desk} {e : Fault}
    (failed : (c.run d).1 = .error e) :
    ((c.run d).2.session.project = d.session.project ↔ ¬ d.Spoils c) ∧
      (d.session.project.Grazed (c.run d).2.session.project ∨
        ∃ r, (c.run d.unattended).1 = .ok r ∧
          (c.run d).2.session.project = (c.run d.unattended).2.session.project) := by
  have failed : (c.outcome d).1 = .error e := failed
  show ((c.outcome d).2.project = d.session.project ↔ ¬ d.Spoils c) ∧
    (d.session.project.Grazed (c.outcome d).2.project ∨
      ∃ r, (c.outcome d.unattended).1 = .ok r ∧
        (c.outcome d).2.project = (c.outcome d.unattended).2.project)
  cases outlook_run c d with
  | answers attended alone =>
    rw [attended] at failed
    cases failed
  | fails attended alone project =>
    rw [attended, project, written_eq_iff, spoils_iff_writes (congrArg Prod.fst alone)]
    exact ⟨Iff.rfl, .inl (grazed_written c)⟩
  | @generates r t attended alone =>
    rw [attended] at failed
    rw [attended, snd_touched, project_touch, spoils_iff_changes attended failed alone]
    exact ⟨not_not.symm, .inr ⟨r, congrArg Prod.fst alone, by rw [alone]; rfl⟩⟩

/-- A label whose horizontal position is not a number, free on the canvas. -/
def astray : Project := { widgets := [newWidget 1 .label ⟨.nan, .zero⟩ .free] }

theorem snap_astray : (start astray {}).snap ⟨.nan, .zero⟩ = .error (.rounding .nan) := by
  have grid : ((start astray {}).gridSize.isFinite
      && Binary64.below 0 (start astray {}).gridSize) = true := by decide +kernel
  unfold snap snapToGrid
  rw [if_pos grid]
  rfl

/-- The area is written whether or not the position can be moved to the grid. -/
theorem setArea_of_snap_error {id : Int} {w : Widget} {e : Fault} (area : Area)
    (found : s.widget id = .ok w) (snapped : s.snap w.pos = .error e) :
    s.setArea id area = (.error e, s.update id fun w => { w with area }) := by
  unfold setArea
  rw [found]
  dsimp only
  rw [snapped]

theorem run_setArea_astray :
    (Command.setArea 1 .left).run { session := start astray {} } =
      (.error (.rounding .nan),
        { session := (start astray {}).update 1 fun w => { w with area := .left } }) := by
  have found : (start astray {}).widget 1 = .ok (newWidget 1 .label ⟨.nan, .zero⟩ .free) := rfl
  have docked := setArea_of_snap_error .left found snap_astray
  unfold Command.run Desk.settle
  dsimp only
  rw [docked]
  rfl

/-- The label cannot be moved to the grid, yet it is docked at the left. -/
theorem project_ne_of_error_docking :
    ((Command.setArea 1 .left).run { session := start astray {} }).1 =
        .error (.rounding .nan) ∧
      ((Command.setArea 1 .left).run { session := start astray {} }).2.session.project ≠ astray := by
  rw [run_setArea_astray]
  refine ⟨rfl, fun same => ?_⟩
  have areas := congrArg (fun p : Project => p.widgets.map Widget.area) same
  exact absurd areas (by decide)

theorem project_eq_iff_of_error_docking :
    ((Command.setArea 1 .left).run { session := start astray {} }).1 = .error (.rounding .nan) ∧
      (((Command.setArea 1 .left).run { session := start astray {} }).2.session.project = astray ↔
        ¬ Desk.Spoils { session := start astray {} } (.setArea 1 .left)) := by
  have failed := congrArg Prod.fst run_setArea_astray
  exact ⟨failed, (project_eq_iff_of_error failed).1⟩

/-! ## Ids that cannot be written -/

/-- With comments, a widget that is placed under an id that is too long to be written stays in the
design, and placing it fails. -/
theorem place_of_overlong {kind : Kind} {center : Vec} {area : Area} {origin pos : Vec}
    (auto : s.autoGenerate = true) (comments : s.comments = true)
    (long : ¬ Json.IsShort s.nextId)
    (snapped : s.snap (cornerOf center origin kind.defaultSize) = .ok pos) :
    (∃ n, (s.place kind center area origin).1 = .error (.number n)) ∧
      (s.place kind center area origin).2.project.widgets =
        s.project.widgets ++ [newWidget s.nextId kind pos area] := by
  have mem : newWidget s.nextId kind pos area ∈
      s.project.widgets ++ [newWidget s.nextId kind pos area] :=
    List.mem_append_right _ (List.mem_singleton_self _)
  obtain ⟨n, unwritten⟩ := Project.exists_error_of_mem
    (p := { s.project with widgets := s.project.widgets ++ [newWidget s.nextId kind pos area] })
    mem long
  unfold place
  rw [snapped]
  dsimp only
  refine ⟨⟨n, touched_of_unwritten ?_ ?_ _⟩, congrArg Project.widgets (project_touch _)⟩
  · exact auto
  · rw [← unwritten, ← comments]
    rfl

end Session

end Formwork
