import Formwork.Proofs.Session.Ids
import Formwork.Proofs.Source.Unstacked

/-!
# The text generated last

With automatic generation on, the text that a session keeps is never older than its design, as
long as there is a widget to draw (`Current`). A command keeps that up in one of four ways
(`Upkeep`): it changes nothing that is generated, it ends by regenerating after a change, it is
itself the command to generate, or it leaves an empty design. The commands that change the painting
order are of the first way: they do not regenerate, and what is generated does not depend on `z`.

`upkeep_run` tells the commands apart, and only those that succeed are looked at. One that fails
may have changed the design without regenerating.
-/

set_option autoImplicit false

namespace Formwork

namespace Session

variable {s s' t : Session}

/-- The text generated last is that of the design, where there is something to draw. -/
def Current (s : Session) : Prop :=
  s.project.widgets ≠ [] → s.generated = s.project.generate s.format s.comments

/-- How modules are generated, and whether that is done unasked, does not differ. -/
structure SameChoices (s s' : Session) : Prop where
  format : s'.format = s.format
  comments : s'.comments = s.comments
  autoGenerate : s'.autoGenerate = s.autoGenerate

namespace SameChoices

theorem refl (s : Session) : SameChoices s s := ⟨rfl, rfl, rfl⟩

theorem trans {u : Session} (h : SameChoices s t) (k : SameChoices t u) : SameChoices s u :=
  ⟨k.format.trans h.format, k.comments.trans h.comments, k.autoGenerate.trans h.autoGenerate⟩

end SameChoices

theorem sameChoices_touch (s : Session) : SameChoices s s.touch.2 := by
  obtain ⟨text, same⟩ := exists_touch s
  rw [same]
  exact ⟨rfl, rfl, rfl⟩

theorem sameChoices_generate (s : Session) : SameChoices s s.generate.2 := by
  obtain ⟨text, same⟩ := exists_generate s
  rw [same]
  exact ⟨rfl, rfl, rfl⟩

theorem sameChoices_updateEach {ids : List Int} {change : Widget → Widget} :
    SameChoices s (s.updateEach ids change) := by
  induction ids generalizing s with
  | nil => exact .refl s
  | cons id ids ih => exact SameChoices.trans (t := s.update id change) ⟨rfl, rfl, rfl⟩ ih

theorem sameChoices_layOut {axis : Axis} {gap x : Binary64} {ws : List Widget} :
    SameChoices s (s.layOut axis gap x ws) := by
  induction ws generalizing s x with
  | nil => exact .refl s
  | cons w ws ih =>
    exact SameChoices.trans (t := s.update w.id (Widget.moveTo axis x)) ⟨rfl, rfl, rfl⟩ ih

theorem sameChoices_cloneEach {ws : List Widget} : SameChoices s (s.cloneEach ws) := by
  induction ws generalizing s with
  | nil => exact .refl s
  | cons w ws ih => exact SameChoices.trans (t := s.clone w) ⟨rfl, rfl, rfl⟩ ih

/-! ## One step -/

/-- How a step keeps the text up to date. -/
inductive Upkeep (s s' : Session) : Prop where
  /-- The design is the same up to its painting order, and nothing is generated. -/
  | keeps (choices : SameChoices s s') (design : s'.project.unstacked = s.project.unstacked)
    (text : s'.generated = s.generated)
  /-- Whatever is changed, the step ends by generating where that is wanted. -/
  | refreshes {t : Session} (last : t.touch = (.ok (), s')) (choices : SameChoices s t)
  | generates (last : s.generate = (.ok (), s'))
  | empties (choices : SameChoices s s') (nothing : s'.project.widgets = [])

namespace Upkeep

theorem refl (s : Session) : Upkeep s s := .keeps (.refl s) rfl rfl

theorem choices (h : Upkeep s s') : SameChoices s s' := by
  cases h with
  | keeps choices _ _ => exact choices
  | @refreshes t last choices =>
    have refreshed := sameChoices_touch t
    rw [last] at refreshed
    exact choices.trans refreshed
  | generates last =>
    have generated := sameChoices_generate s
    rwa [last] at generated
  | empties choices _ => exact choices

/-- A change that ends by generating does so whenever its answer is given. -/
theorem of_touched {α : Type} {a b : α} (done : (t.touched a).1 = .ok b)
    (choices : SameChoices s t) : Upkeep s (t.touched a).2 := by
  refine .refreshes (t := t) ?_ choices
  obtain ⟨_, touched, -⟩ := Json.exists_of_map_ok done
  exact Prod.ext touched rfl

/-- The same of a change that has no other answer. -/
theorem of_touch {u : Unit} (done : t.touch.1 = .ok u) (choices : SameChoices s t) :
    Upkeep s t.touch.2 :=
  .refreshes (t := t) (Prod.ext done rfl) choices

end Upkeep

/-- After `touch` the text is that of the design, if generating is wanted. -/
theorem current_touch (auto : t.autoGenerate = true) (done : t.touch = (.ok (), s')) :
    s'.Current := by
  unfold touch at done
  rw [auto, Bool.true_and] at done
  cases widgets : t.project.widgets with
  | nil =>
    rw [widgets] at done
    obtain rfl : t = s' := (Prod.mk.inj done).2
    exact fun drawn => absurd widgets drawn
  | cons w ws =>
    rw [widgets] at done
    rw [generated_generate done]
    exact fun _ => rfl

theorem drawn_of_unstacked {p q : Project} (design : p.unstacked = q.unstacked)
    (drawn : p.widgets ≠ []) : q.widgets ≠ [] := by
  intro nothing
  have widgets : p.unstacked.widgets = [] := by
    rw [design, Project.unstacked, nothing, List.map_nil]
  exact drawn (List.map_eq_nil_iff.1 widgets)

theorem Upkeep.current (h : Upkeep s s') (auto : s.autoGenerate = true) (current : s.Current) :
    s'.Current := by
  intro drawn
  cases h with
  | keeps choices design text =>
    rw [text, current (drawn_of_unstacked design drawn), choices.format, choices.comments]
    exact Project.generate_congr design.symm s.format s.comments
  | refreshes last choices => exact current_touch (choices.autoGenerate.trans auto) last drawn
  | generates last =>
    rw [generated_generate last]
  | empties choices nothing => exact absurd nothing drawn

/-! ## The commands -/

theorem upkeep_place {kind : Kind} {center : Vec} {area : Area} {origin : Vec} {w : Widget}
    (done : (s.place kind center area origin).1 = .ok w) :
    Upkeep s (s.place kind center area origin).2 := by
  unfold place at done ⊢
  split
  next snapped =>
    rw [snapped] at done
    cases done
  next snapped =>
    rw [snapped] at done
    exact .of_touched done ⟨rfl, rfl, rfl⟩

/-- Where no widget goes, nothing is generated, and nothing needs to be. -/
theorem unstacked_filter {kept : Widget → Bool}
    (same : (s.project.widgets.filter kept).length = s.project.widgets.length) :
    Project.unstacked { s.project with widgets := s.project.widgets.filter kept } =
      s.project.unstacked := by
  have widgets : s.project.widgets.filter kept = s.project.widgets :=
    List.filter_sublist.eq_of_length same
  rw [widgets]

theorem upkeep_delete {id : Int} {b : Bool} (done : (s.delete id).1 = .ok b) :
    Upkeep s (s.delete id).2 := by
  unfold delete at done ⊢
  dsimp only at done ⊢
  split
  next gone =>
    rw [if_pos gone] at done
    exact .of_touched done ⟨rfl, rfl, rfl⟩
  next stays =>
    have same : (s.project.widgets.filter fun w => w.id != id).length = s.project.widgets.length :=
      by simpa only [bne_iff_ne, ne_eq, not_not] using stays
    exact .keeps ⟨rfl, rfl, rfl⟩ (unstacked_filter same) rfl

theorem upkeep_deleteSelected {n : Nat} (done : s.deleteSelected.1 = .ok n) :
    Upkeep s s.deleteSelected.2 := by
  unfold deleteSelected at done ⊢
  dsimp only at done ⊢
  split
  next stays =>
    have fewer : (s.project.widgets.filter fun w => !s.isSelected w.id).length ≤
        s.project.widgets.length := List.length_filter_le ..
    exact .keeps ⟨rfl, rfl, rfl⟩ (unstacked_filter (by omega)) rfl
  next gone =>
    rw [if_neg gone] at done
    exact .of_touched done ⟨rfl, rfl, rfl⟩

theorem upkeep_duplicateSelected {ids : List Int} (done : s.duplicateSelected.1 = .ok ids) :
    Upkeep s s.duplicateSelected.2 := by
  have copied : SameChoices s (s.cloneEach s.selectedWidgets) := sameChoices_cloneEach
  unfold duplicateSelected at done ⊢
  generalize s.selectedWidgets = selection at done copied ⊢
  cases selection with
  | nil => exact .refl s
  | cons first rest => exact .of_touched done (copied.trans ⟨rfl, rfl, rfl⟩)

theorem upkeep_copy : Upkeep s s.copy.2 := by
  unfold copy
  split
  next => exact .refl s
  next => exact .keeps ⟨rfl, rfl, rfl⟩ rfl rfl

theorem upkeep_paste {w : Option Widget} (done : s.paste.1 = .ok w) : Upkeep s s.paste.2 := by
  unfold paste at done ⊢
  split
  next => exact .refl s
  next full =>
    rw [full] at done
    exact .of_touched done ⟨rfl, rfl, rfl⟩

theorem upkeep_nudge {dx dy : Int} {u : Unit} (done : (s.nudge dx dy).1 = .ok u) :
    Upkeep s (s.nudge dx dy).2 := by
  unfold nudge at done ⊢
  generalize s.selectedWidgets = selection at done ⊢
  generalize Binary64.ofInt? dx = horizontal at done ⊢
  generalize Binary64.ofInt? dy = vertical at done ⊢
  cases selection with
  | nil => exact .of_touch done (.refl s)
  | cons first rest =>
    cases horizontal with
    | none => cases done
    | some nx =>
      cases vertical with
      | none => cases done
      | some ny => exact .of_touch done sameChoices_updateEach

/-- The painting order is changed and nothing else. -/
theorem stack_eq (z step : Int) (ids : List Int) : ∃ p : Project,
    s.stack z step ids = { s with project := p } ∧ p.unstacked = s.project.unstacked := by
  induction ids generalizing s z with
  | nil => exact ⟨s.project, rfl, rfl⟩
  | cons id ids ih =>
    have raised : (s.project.update id fun w => { w with z }).unstacked = s.project.unstacked :=
      Project.unstacked_update fun _ => rfl
    obtain ⟨p, session, design⟩ := @ih (s.update id fun w => { w with z }) (z + step)
    exact ⟨p, session, design.trans raised⟩

theorem upkeep_stack {ids : List Int} {z step : Int} : Upkeep s (s.stack z step ids) := by
  obtain ⟨p, session, design⟩ := stack_eq (s := s) z step ids
  rw [session]
  exact .keeps ⟨rfl, rfl, rfl⟩ design rfl

theorem upkeep_align {axis : Axis} {how : Alignment} {u : Unit}
    (done : (s.align axis how).1 = .ok u) : Upkeep s (s.align axis how).2 := by
  unfold align at done ⊢
  split
  next => exact .refl s
  next some =>
    rw [some] at done
    exact .of_touch done sameChoices_updateEach

theorem upkeep_matchExtent {axis : Axis} {u : Unit} (done : (s.matchExtent axis).1 = .ok u) :
    Upkeep s (s.matchExtent axis).2 := by
  unfold matchExtent at done ⊢
  split
  next => exact .refl s
  next some =>
    rw [some] at done
    exact .of_touch done sameChoices_updateEach

theorem upkeep_distribute {axis : Axis} {u : Unit} (done : (s.distribute axis).1 = .ok u) :
    Upkeep s (s.distribute axis).2 := by
  unfold distribute at done ⊢
  dsimp only at done ⊢
  split
  next first last =>
    rw [first, last] at done
    dsimp only at done
    split
    next => exact .refl s
    next many =>
      rw [if_neg many] at done
      exact .of_touch done sameChoices_layOut
  next => exact .refl s

theorem upkeep_setItems {id : Int} {items : List String} {w : Widget}
    (done : (s.setItems id items).1 = .ok w) : Upkeep s (s.setItems id items).2 := by
  unfold setItems at done ⊢
  split
  next missing =>
    rw [missing] at done
    cases done
  next found =>
    simp only [found] at done
    split
    next refused =>
      rw [refused] at done
      cases done
    next taken =>
      rw [taken] at done
      exact .of_touched done ⟨rfl, rfl, rfl⟩

theorem upkeep_setArea {id : Int} {area : Area} {w : Widget}
    (done : (s.setArea id area).1 = .ok w) : Upkeep s (s.setArea id area).2 := by
  unfold setArea at done ⊢
  split
  next missing =>
    rw [missing] at done
    cases done
  next found =>
    simp only [found] at done
    split
    next snapped =>
      rw [snapped] at done
      cases done
    next snapped =>
      rw [snapped] at done
      exact .of_touched done ⟨rfl, rfl, rfl⟩

theorem upkeep_setPanelEnabled {area : Area} {enabled : Bool} {u : Unit}
    (done : (s.setPanelEnabled area enabled).1 = .ok u) :
    Upkeep s (s.setPanelEnabled area enabled).2 := by
  unfold setPanelEnabled at done ⊢
  split
  next refused =>
    rw [refused] at done
    cases done
  next enabled =>
    rw [enabled] at done
    exact .of_touch done ⟨rfl, rfl, rfl⟩

theorem upkeep_load {files : FileTree} {path : Text.Raw} {b : Bool}
    (done : (s.load files path).1 = .ok b) : Upkeep s (s.load files path).2 := by
  unfold load at done ⊢
  split
  next refused =>
    rw [refused] at done
    cases done
  next => exact .keeps ⟨rfl, rfl, rfl⟩ rfl rfl
  next accepted =>
    rw [accepted] at done
    exact .of_touched done ⟨rfl, rfl, rfl⟩

theorem upkeep_save (files : FileTree) (path : Option Text.Raw) :
    Upkeep s (s.save files path).1.2 := by
  unfold save
  split
  next => exact .keeps ⟨rfl, rfl, rfl⟩ rfl rfl
  next =>
    split
    next => exact .refl s
    next => exact .keeps ⟨rfl, rfl, rfl⟩ rfl rfl
    next => exact .keeps ⟨rfl, rfl, rfl⟩ rfl rfl

theorem upkeep_importText {text : String} {b : Bool} (done : (s.importText text).1 = .ok b) :
    Upkeep s (s.importText text).2 := by
  unfold importText at done ⊢
  split
  next => exact .keeps ⟨rfl, rfl, rfl⟩ rfl rfl
  next accepted =>
    rw [accepted] at done
    exact .of_touched done ⟨rfl, rfl, rfl⟩

end Session

/-- An answer is given only where the session's own outcome has one. -/
private theorem exists_ok_of_settle {α : Type} {d : Desk} {reply : α → Reply} {o : Outcome α}
    {r : Reply} (done : (d.settle reply o).1 = .ok r) : ∃ a, o.1 = .ok a := by
  obtain ⟨a, answer, -⟩ := Json.exists_of_map_ok done
  exact ⟨a, answer⟩

namespace Session

variable {s : Session}

/-- What a command that succeeds does for the text, on whatever desk it is given. -/
theorem upkeep_run {c : Command} {d : Desk} {r : Reply} (done : (c.run d).1 = .ok r) :
    Upkeep d.session (c.run d).2.session := by
  cases c with
  | place => exact (exists_ok_of_settle done).elim fun _ => upkeep_place
  | delete => exact (exists_ok_of_settle done).elim fun _ => upkeep_delete
  | deleteSelected => exact (exists_ok_of_settle done).elim fun _ => upkeep_deleteSelected
  | duplicateSelected => exact (exists_ok_of_settle done).elim fun _ => upkeep_duplicateSelected
  | paste => exact (exists_ok_of_settle done).elim fun _ => upkeep_paste
  | nudge => exact (exists_ok_of_settle done).elim fun _ => upkeep_nudge
  | align => exact (exists_ok_of_settle done).elim fun _ => upkeep_align
  | matchExtent => exact (exists_ok_of_settle done).elim fun _ => upkeep_matchExtent
  | distribute => exact (exists_ok_of_settle done).elim fun _ => upkeep_distribute
  | setItems => exact (exists_ok_of_settle done).elim fun _ => upkeep_setItems
  | setArea => exact (exists_ok_of_settle done).elim fun _ => upkeep_setArea
  | setPanelEnabled => exact (exists_ok_of_settle done).elim fun _ => upkeep_setPanelEnabled
  | load => exact (exists_ok_of_settle done).elim fun _ => upkeep_load
  | importText => exact (exists_ok_of_settle done).elim fun _ => upkeep_importText
  | touch => exact (exists_ok_of_settle done).elim fun _ done => .of_touch done (.refl d.session)
  | generate => exact (exists_ok_of_settle done).elim fun _ done => .generates (Prod.ext done rfl)
  | copy => exact upkeep_copy
  | bringToFront => exact upkeep_stack
  | sendToBack => exact upkeep_stack
  | save path => exact upkeep_save d.files path
  | newProject => exact .empties ⟨rfl, rfl, rfl⟩ rfl
  | selectSingle _ | toggleSelection _ | addToSelection _ | clearSelection | selectAll =>
    exact .keeps ⟨rfl, rfl, rfl⟩ rfl rfl

/-! ## Runs -/

/-- No turn of the run fails. -/
def Succeeds (s : Session) : List Turn → Prop
  | [] => True
  | t :: ts => (∃ r, (t.command.run ⟨s, t.files⟩).1 = .ok r) ∧ (s.after t).Succeeds ts

/-- A run that succeeds has succeeded up to every point of it. -/
theorem Succeeds.left {ts us : List Turn} (h : s.Succeeds (ts ++ us)) : s.Succeeds ts := by
  induction ts generalizing s with
  | nil => trivial
  | cons t ts ih => exact ⟨h.1, ih h.2⟩

theorem current_start {p : Project} (settings : Settings) (nothing : p.widgets = []) :
    (start p settings).Current := fun drawn => absurd nothing drawn

/-- Along a run that succeeds the text stays up to date, under the same choices. -/
theorem Current.course {ts : List Turn} (current : s.Current) (auto : s.autoGenerate = true)
    (succeeds : s.Succeeds ts) : (s.course ts).Current ∧ SameChoices s (s.course ts) := by
  induction ts generalizing s with
  | nil => exact ⟨current, .refl s⟩
  | cons t ts ih =>
    obtain ⟨⟨r, done⟩, later⟩ := succeeds
    have step : Upkeep s (s.after t) := upkeep_run done
    have choices := step.choices
    have rest := ih (step.current auto current) (choices.autoGenerate.trans auto) later
    exact ⟨rest.1, choices.trans rest.2⟩

/-- **The text is never stale.** On a run that begins with an empty design and automatic
generation, and on which no command fails, the text generated last is that of the design at every
point where there is a widget to draw. -/
theorem generated_course {p : Project} {settings : Settings} (nothing : p.widgets = [])
    (auto : settings.autoGenerate = true) {ts us : List Turn}
    (succeeds : (start p settings).Succeeds ts) (earlier : us <+: ts)
    (drawn : ((start p settings).course us).project.widgets ≠ []) :
    ((start p settings).course us).generated =
      ((start p settings).course us).project.generate settings.format settings.comments := by
  obtain ⟨vs, rfl⟩ := earlier
  obtain ⟨current, choices⟩ :=
    (current_start settings nothing).course auto succeeds.left
  rw [current drawn, choices.format, choices.comments]
  rfl

/-- Automatic generation, without a grid. -/
def automatic : Settings := { gridSize := 0, autoGenerate := true }

/-- A button is placed, which selects it, and brought to the front, which generates nothing. -/
def raising : List Turn := [⟨.place .button {} .free {}, {}⟩, ⟨.bringToFront, {}⟩]

theorem place_automatic : ∃ w, (start {} automatic).place .button {} .free {} =
    (.ok w, (((start {} automatic).allocate.add w).selectSingle w.id).touch.2) := by
  have free : ((start {} automatic).gridSize.isFinite
      && Binary64.below 0 (start {} automatic).gridSize) = false := by decide +kernel
  unfold place snap snapToGrid
  rw [free]
  -- The id of the button can be written, so that the module is generated.
  have short : Json.IsShort 1 := Json.isShort_of_natAbs_lt (k := 1) (by decide) (by decide)
  have written (pos : Vec) : Project.checkNumbers
      { widgets := [newWidget 1 .button pos .free] } true = .ok () := by
    refine Project.checkNumbers_eq_ok_iff.2 fun w mem => ?_
    rw [List.mem_singleton.1 mem]
    exact ⟨Source.bind_eq_ok_iff.2 ⟨Source.checkId_of_isShort short _, rfl⟩,
      Source.bind_eq_ok_iff.2 ⟨Source.checkId_of_isShort short _, rfl⟩⟩
  refine ⟨_, touched_eq_ok ?_ _⟩
  exact written _

theorem generated_course_raised :
    (start {} automatic).Succeeds raising ∧
      ((start {} automatic).course raising).project.widgets ≠ [] ∧
      ((start {} automatic).course raising).generated =
        ((start {} automatic).course raising).project.generate .single true := by
  obtain ⟨w, placed⟩ := place_automatic
  have run : (Command.place .button {} .free {}).run ⟨start {} automatic, {}⟩ =
      Desk.settle ⟨start {} automatic, {}⟩ (fun w => .widget (some w))
        ((start {} automatic).place .button {} .free {}) := rfl
  rw [placed] at run
  have succeeds : (start {} automatic).Succeeds raising :=
    ⟨⟨.widget (some w), congrArg Prod.fst run⟩, ⟨.nothing, rfl⟩, trivial⟩
  have held : ((start {} automatic).after ⟨.place .button {} .free {}, {}⟩).ids = [w.id] := by
    unfold after
    rw [run]
    exact congrArg Project.ids (project_touch _)
  have course (s : Session) :
      s.course raising = (s.after ⟨.place .button {} .free {}, {}⟩).bringToFront := rfl
  have drawn : ((start {} automatic).course raising).project.widgets ≠ [] := by
    intro nothing
    have ids : ((start {} automatic).course raising).ids = [w.id] := by
      rw [course, bringToFront, sameContents_stack.sameIds.ids, held]
    rw [Session.ids, Project.ids, nothing] at ids
    cases ids
  exact ⟨succeeds, drawn, generated_course rfl rfl succeeds (List.prefix_refl raising) drawn⟩

end Session

end Formwork
