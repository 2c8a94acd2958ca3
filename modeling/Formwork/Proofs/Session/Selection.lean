import Formwork.Proofs.Session.Ids
import Mathlib.Data.List.Nodup

/-!
# The selection stays live

The selection is a list of ids, and nothing in its type keeps an id in it from being there twice or
from outliving its widget. Both are kept out by what the commands do together (`Live`), as long as a
surface only asks to select ids that are in the design (`Aimed`). So every selected id stands for
one widget, and `selectedWidgets` passes nothing over.

The two halves depend on each other. Deleting a widget takes one occurrence of its id out of the
selection, which is all of them only because no id is selected twice; and selecting everything
selects no id twice because the ids of a design are distinct. `Reselects` says what a command does to
the selection, one case for each way.
-/

set_option autoImplicit false

namespace Formwork

/-- A command that selects a single id names one that is in the design. -/
def Command.Aims (s : Session) : Command → Prop
  | .selectSingle id => id ∈ s.ids
  | .toggleSelection id => id ∈ s.ids
  | .addToSelection id => id ∈ s.ids
  | _ => True

namespace Session

variable {s s' t : Session}

/-- No id is selected twice, and every selected id is that of a widget of the design. -/
structure Live (s : Session) : Prop where
  distinct : s.selected.Nodup
  held : ∀ id ∈ s.selected, id ∈ s.ids

/-! ## One step -/

/-- How the selection changes in one step. -/
inductive Reselects (s s' : Session) : Prop where
  /-- Ids may be taken out of the selection; those in the design stay. -/
  | drops (selected : s'.selected.Sublist s.selected) (ids : s.ids ⊆ s'.ids)
  /-- An id goes from the design, and one occurrence of it from the selection. -/
  | deletes (id : Int) (selected : s'.selected = s.selected.erase id)
    (ids : ∀ other ∈ s.ids, other ≠ id → other ∈ s'.ids)
  | adds (id : Int) (selected : s'.selected = s.selected ++ [id]) (new : id ∉ s.selected)
    (held : id ∈ s.ids) (ids : s'.ids = s.ids)
  /-- The selection is made anew, out of the design as it is then. -/
  | chooses (distinct : s'.selected.Nodup) (held : s'.selected ⊆ s'.ids)

namespace Reselects

theorem live (h : Reselects s s') (live : s.Live) : s'.Live := by
  cases h with
  | drops selected ids =>
    exact ⟨live.distinct.sublist selected, fun id hid => ids (live.held id (selected.subset hid))⟩
  | deletes id selected ids =>
    refine ⟨selected ▸ live.distinct.erase id, fun other hother => ?_⟩
    rw [selected, live.distinct.mem_erase_iff] at hother
    exact ids other (live.held other hother.2) hother.1
  | adds id selected new held ids =>
    refine ⟨?_, fun other hother => ?_⟩
    · rw [selected]
      exact List.nodup_append.2 ⟨live.distinct, List.pairwise_singleton _ id,
        fun a ha b hb same => new (List.mem_singleton.1 hb ▸ same ▸ ha)⟩
    · rw [ids]
      rw [selected, List.mem_append, List.mem_singleton] at hother
      rcases hother with old | rfl
      · exact live.held other old
      · exact held
  | chooses distinct held => exact ⟨distinct, held⟩

theorem congr {s'' : Session} (h : Reselects s s') (selected : s''.selected = s'.selected)
    (ids : s''.ids = s'.ids) : Reselects s s'' := by
  cases h with
  | drops sublist kept => exact .drops (selected ▸ sublist) (ids ▸ kept)
  | deletes id erased kept => exact .deletes id (selected.trans erased) (ids ▸ kept)
  | adds id added new held same => exact .adds id (selected.trans added) new held (ids.trans same)
  | chooses distinct held => exact .chooses (selected ▸ distinct) (by rw [selected, ids]; exact held)

theorem touch (h : Reselects s s') : Reselects s s'.touch.2 :=
  h.congr (selected_touch s') (congrArg Project.ids (project_touch s'))

end Reselects

/-- A command that changes neither the ids nor the selection. -/
theorem SameIds.reselects (h : SameIds s s') (selected : s'.selected = s.selected) :
    Reselects s s' := .drops (selected ▸ List.Sublist.refl _) (h.ids ▸ List.Subset.refl _)

theorem SameContents.reselects (h : SameContents s s') (selected : s'.selected = s.selected) :
    Reselects s s' := h.sameIds.reselects selected

/-! ## Commands that leave the selection alone -/

theorem selected_updateEach {ids : List Int} {change : Widget → Widget} :
    (s.updateEach ids change).selected = s.selected := by
  induction ids generalizing s with
  | nil => rfl
  | cons id ids ih => exact ih (s := s.update id change)

theorem selected_stack {ids : List Int} {z step : Int} :
    (s.stack z step ids).selected = s.selected := by
  induction ids generalizing s z with
  | nil => rfl
  | cons id ids ih => exact ih (s := s.update id fun w => { w with z })

theorem selected_layOut {axis : Axis} {gap x : Binary64} {ws : List Widget} :
    (s.layOut axis gap x ws).selected = s.selected := by
  induction ws generalizing s x with
  | nil => rfl
  | cons w ws ih => exact ih (s := s.update w.id (Widget.moveTo axis x))

theorem selected_nudge (dx dy : Int) : (s.nudge dx dy).2.selected = s.selected := by
  unfold nudge
  cases s.selectedWidgets with
  | nil => exact selected_touch s
  | cons first rest =>
    cases Binary64.ofInt? dx with
    | none => rfl
    | some nx =>
      cases Binary64.ofInt? dy with
      | none => rfl
      | some ny => exact (selected_touch _).trans selected_updateEach

theorem selected_align (axis : Axis) (how : Alignment) :
    (s.align axis how).2.selected = s.selected := by
  unfold align
  split
  next => rfl
  next => exact (selected_touch _).trans selected_updateEach

theorem selected_matchExtent (axis : Axis) : (s.matchExtent axis).2.selected = s.selected := by
  unfold matchExtent
  split
  next => rfl
  next => exact (selected_touch _).trans selected_updateEach

theorem selected_distribute (axis : Axis) : (s.distribute axis).2.selected = s.selected := by
  unfold distribute
  dsimp only
  split
  next =>
    split
    next => rfl
    next => exact (selected_touch _).trans selected_layOut
  next => rfl

theorem selected_setItems (id : Int) (items : List String) :
    (s.setItems id items).2.selected = s.selected := by
  unfold setItems
  split
  next => rfl
  next =>
    split
    next => rfl
    next => exact selected_touch _

theorem selected_setArea (id : Int) (area : Area) :
    (s.setArea id area).2.selected = s.selected := by
  unfold setArea
  split
  next => rfl
  next =>
    split
    next => rfl
    next => exact selected_touch _

theorem selected_setPanelEnabled (area : Area) (enabled : Bool) :
    (s.setPanelEnabled area enabled).2.selected = s.selected := by
  unfold setPanelEnabled
  split
  next => rfl
  next => exact selected_touch _

theorem selected_save (files : FileTree) (path : Option Text.Raw) :
    (s.save files path).1.2.selected = s.selected := by
  unfold save
  split
  next => rfl
  next =>
    split
    next => rfl
    next => rfl
    next => rfl

theorem selected_copy : s.copy.2.selected = s.selected := by
  unfold copy
  split
  next => rfl
  next => rfl

/-! ## Commands that select -/

/-- A widget that was placed is selected; where none was placed, the selection stays. -/
theorem reselects_place (kind : Kind) (center : Vec) (area : Area) (origin : Vec) :
    Reselects s (s.place kind center area origin).2 := by
  unfold place
  split
  next => exact .drops (List.Sublist.refl _) (List.Subset.refl _)
  next pos _ =>
    refine Reselects.touch (.chooses (List.pairwise_singleton _ _) fun id hid => ?_)
    rw [List.mem_singleton.1 hid]
    exact List.mem_map_of_mem (f := Widget.id)
      (List.mem_append_right s.project.widgets (List.mem_singleton_self _))

theorem reselects_duplicateSelected : Reselects s s.duplicateSelected.2 := by
  unfold duplicateSelected
  split
  next => exact SameIds.reselects ⟨rfl, rfl⟩ rfl
  next =>
    obtain ⟨added, widgets, ids, -⟩ := exists_cloneEach s.selectedWidgets s
    refine Reselects.touch (.chooses ((pairwise_nextIds s _).imp Int.ne_of_lt) fun id hid => ?_)
    show id ∈ (s.cloneEach s.selectedWidgets).project.widgets.map Widget.id
    rw [widgets, List.map_append, ids]
    exact List.mem_append_right _ hid

theorem reselects_paste : Reselects s s.paste.2 := by
  unfold paste
  split
  next => exact SameIds.reselects ⟨rfl, rfl⟩ rfl
  next source _ =>
    refine Reselects.touch (.chooses (List.pairwise_singleton _ _) fun id hid => ?_)
    rw [List.mem_singleton.1 hid]
    exact List.mem_map_of_mem (f := Widget.id) (a := copyOf source s.nextId)
      (List.mem_append_right s.project.widgets (List.mem_singleton_self _))

theorem reselects_selectSingle {id : Int} (held : id ∈ s.ids) : Reselects s (s.selectSingle id) :=
  .chooses (List.pairwise_singleton _ id) (List.cons_subset.2 ⟨held, List.nil_subset _⟩)

theorem reselects_addToSelection {id : Int} (held : id ∈ s.ids) :
    Reselects s (s.addToSelection id) := by
  unfold addToSelection
  split
  next => exact SameIds.reselects ⟨rfl, rfl⟩ rfl
  next other => exact .adds id rfl (fun mem => other (List.contains_iff_mem.2 mem)) held rfl

theorem reselects_toggleSelection {id : Int} (held : id ∈ s.ids) :
    Reselects s (s.toggleSelection id) := by
  unfold toggleSelection
  split
  next => exact .drops List.erase_sublist (List.Subset.refl _)
  next other => exact .adds id rfl (fun mem => other (List.contains_iff_mem.2 mem)) held rfl

/-! ## Commands that clear the selection or take from it -/

theorem reselects_delete (id : Int) : Reselects s (s.delete id).2 := by
  have kept : ∀ other ∈ s.ids, other ≠ id →
      other ∈ (s.project.widgets.filter fun w => w.id != id).map Widget.id := by
    intro other hother differs
    obtain ⟨w, hw, rfl⟩ := List.mem_map.1 hother
    exact List.mem_map_of_mem (List.mem_filter.2 ⟨hw, bne_iff_ne.2 differs⟩)
  unfold delete
  dsimp only
  split
  · exact Reselects.touch (.deletes id rfl kept)
  · exact .deletes id rfl kept

/-- Where nothing is selected, there is nothing to keep alive. -/
theorem reselects_of_selected_eq_nil (nothing : s'.selected = []) : Reselects s s' :=
  .chooses (nothing ▸ List.nodup_nil) (nothing ▸ List.nil_subset _)

theorem reselects_deleteSelected : Reselects s s.deleteSelected.2 := by
  unfold deleteSelected
  dsimp only
  split
  · exact reselects_of_selected_eq_nil rfl
  · exact Reselects.touch (reselects_of_selected_eq_nil rfl)

theorem reselects_load (files : FileTree) (path : Text.Raw) :
    Reselects s (s.load files path).2 := by
  unfold load
  split
  next => exact SameIds.reselects ⟨rfl, rfl⟩ rfl
  next => exact SameIds.reselects ⟨rfl, rfl⟩ rfl
  next => exact Reselects.touch (reselects_of_selected_eq_nil rfl)

theorem reselects_importText (text : String) : Reselects s (s.importText text).2 := by
  unfold importText
  split
  next => exact SameIds.reselects ⟨rfl, rfl⟩ rfl
  next => exact Reselects.touch (reselects_of_selected_eq_nil rfl)

/-- What an aimed command does to the selection, on whatever desk it is given. -/
theorem reselects_run {c : Command} {d : Desk} (aims : c.Aims d.session)
    (distinct : d.session.ids.Nodup) : Reselects d.session (c.run d).2.session := by
  cases c with
  | place kind center area origin => exact reselects_place kind center area origin
  | selectSingle id => exact reselects_selectSingle aims
  | toggleSelection id => exact reselects_toggleSelection aims
  | addToSelection id => exact reselects_addToSelection aims
  | clearSelection => exact reselects_of_selected_eq_nil rfl
  | selectAll => exact .chooses distinct (List.Subset.refl _)
  | delete id => exact reselects_delete id
  | deleteSelected => exact reselects_deleteSelected
  | duplicateSelected => exact reselects_duplicateSelected
  | paste => exact reselects_paste
  | newProject => exact reselects_of_selected_eq_nil rfl
  | load path => exact reselects_load d.files path
  | importText text => exact reselects_importText text
  | copy => exact sameIds_copy.reselects selected_copy
  | nudge dx dy => exact (sameContents_nudge dx dy).reselects (selected_nudge dx dy)
  | bringToFront => exact sameContents_stack.reselects selected_stack
  | sendToBack => exact sameContents_stack.reselects selected_stack
  | align axis how => exact (sameContents_align axis how).reselects (selected_align axis how)
  | matchExtent axis => exact (sameContents_matchExtent axis).reselects (selected_matchExtent axis)
  | distribute axis => exact (sameContents_distribute axis).reselects (selected_distribute axis)
  | setItems id items => exact (sameIds_setItems id items).reselects (selected_setItems id items)
  | setArea id area => exact (sameContents_setArea id area).reselects (selected_setArea id area)
  | setPanelEnabled area enabled =>
    exact (sameContents_setPanelEnabled area enabled).reselects
      (selected_setPanelEnabled area enabled)
  | save path => exact (sameContents_save d.files path).reselects (selected_save d.files path)
  | generate =>
    exact (sameContents_generate d.session).reselects (selected_generate d.session)
  | touch => exact Reselects.touch (SameIds.reselects ⟨rfl, rfl⟩ rfl)

/-! ## Runs -/

/-- On the run, what is asked to be selected is in the design at that time. -/
def Aimed (s : Session) : List Turn → Prop
  | [] => True
  | t :: ts => t.command.Aims s ∧ (s.after t).Aimed ts

theorem Live.course {ts : List Turn} (live : s.Live) (fresh : s.Fresh) (aimed : s.Aimed ts) :
    (s.course ts).Live := by
  induction ts generalizing s with
  | nil => exact live
  | cons t ts ih =>
    have step : Reselects s (s.after t) :=
      reselects_run (d := ⟨s, t.files⟩) aimed.1 fresh.distinct
    exact ih (step.live live) ((idStep_after s t).fresh fresh) aimed.2

/-- The widget that an id of the design finds has that id. -/
theorem map_id_find? {p : Project} {id : Int} (held : id ∈ p.ids) :
    (p.find? id).map Widget.id = some id := by
  obtain ⟨w, hw, same⟩ := List.mem_map.1 held
  cases found : p.find? id with
  | none => exact absurd (beq_iff_eq.2 same) (List.find?_eq_none.1 found w hw)
  | some v => exact congrArg some (Project.mem_of_find? found).2

/-- In a design with distinct ids, an id finds the widget that has it. -/
theorem find?_of_mem {p : Project} (distinct : p.ids.Nodup) {w : Widget} (hw : w ∈ p.widgets) :
    p.find? w.id = some w := by
  have named := map_id_find? (List.mem_map_of_mem hw : w.id ∈ p.ids)
  obtain ⟨v, found, same⟩ := Option.map_eq_some_iff.1 named
  rw [found, List.inj_on_of_nodup_map distinct (Project.mem_of_find? found).1 hw same]

/-- Of the selected ids, those of the design are passed on. -/
theorem map_id_selectedWidgets :
    s.selectedWidgets.map Widget.id = s.selected.filter fun id => id ∈ s.ids := by
  rw [selectedWidgets, List.map_filterMap, ← List.filterMap_eq_filter]
  refine List.filterMap_congr fun id _ => ?_
  by_cases held : id ∈ s.ids
  · rw [map_id_find? held, Option.guard, if_pos (decide_eq_true held)]
  · have absent : s.project.find? id = none :=
      List.find?_eq_none.2 fun w hw same => held (beq_iff_eq.1 same ▸ List.mem_map_of_mem hw)
    rw [absent, Option.guard, if_neg (by simpa using held)]
    rfl

theorem nodup_map_id_selectedWidgets (once : s.selected.Nodup) :
    (s.selectedWidgets.map Widget.id).Nodup := by
  rw [map_id_selectedWidgets]
  exact once.filter _

theorem mem_selectedWidgets (distinct : s.ids.Nodup) {w : Widget} :
    w ∈ s.selectedWidgets ↔ w ∈ s.project.widgets ∧ w.id ∈ s.selected := by
  constructor
  · intro hw
    obtain ⟨id, hid, found⟩ := List.mem_filterMap.1 hw
    obtain ⟨hw, named⟩ := Project.mem_of_find? found
    exact ⟨hw, named ▸ hid⟩
  · rintro ⟨hw, hid⟩
    exact List.mem_filterMap.2 ⟨w.id, hid, find?_of_mem distinct hw⟩

/-- Of live ids none is passed over. -/
theorem Live.map_id_selectedWidgets (live : s.Live) :
    s.selectedWidgets.map Widget.id = s.selected := by
  rw [Session.map_id_selectedWidgets, List.filter_eq_self]
  exact fun id hid => decide_eq_true (live.held id hid)

/-- **The selection stays live.** From a point of a run where nothing is selected, a run may go on
with any commands, those that fail among them. As long as it only selects ids that are in the design,
no id is selected twice, every selected id is that of a widget of the design, and the selected widgets
are one for each of these ids, in the order of selection. -/
theorem selected_course {p : Project} (distinct : p.ids.Nodup) (settings : Settings)
    {us ts : List Turn} (nothing : ((start p settings).course us).selected = [])
    (aimed : ((start p settings).course us).Aimed ts) :
    ((start p settings).course (us ++ ts)).selected.Nodup ∧
      (∀ id ∈ ((start p settings).course (us ++ ts)).selected,
        id ∈ ((start p settings).course (us ++ ts)).ids) ∧
      ((start p settings).course (us ++ ts)).selectedWidgets.map Widget.id =
        ((start p settings).course (us ++ ts)).selected ∧
      ∀ w ∈ ((start p settings).course (us ++ ts)).selectedWidgets,
        w ∈ ((start p settings).course (us ++ ts)).project.widgets := by
  have fresh := (fresh_start settings distinct).course us
  have empty : ((start p settings).course us).Live :=
    ⟨nothing ▸ List.nodup_nil, fun id hid => absurd hid (nothing ▸ List.not_mem_nil)⟩
  have live := empty.course fresh aimed
  rw [← course_append] at live
  refine ⟨live.distinct, live.held, live.map_id_selectedWidgets, fun w hw => ?_⟩
  obtain ⟨id, -, found⟩ := List.mem_filterMap.1 hw
  exact (Project.mem_of_find? found).1

/-- Two labels. -/
def twoLabels : Project :=
  { widgets := [newWidget 1 .label {} .free, newWidget 2 .label {} .free] }

/-- Both labels are selected, one after the other, and the first of them is deleted. -/
def deselecting : List Turn :=
  [⟨.selectSingle 1, {}⟩, ⟨.toggleSelection 2, {}⟩, ⟨.delete 1, {}⟩]

/-- The label that is not deleted stays selected. -/
theorem selected_course_deselecting :
    twoLabels.ids.Nodup ∧ ((start twoLabels {}).course []).selected = [] ∧
      ((start twoLabels {}).course []).Aimed deselecting ∧
      ((start twoLabels {}).course ([] ++ deselecting)).selectedWidgets.map Widget.id = [2] := by
  have distinct : twoLabels.ids.Nodup := by decide
  have nothing : ((start twoLabels {}).course []).selected = [] := rfl
  have aimed : ((start twoLabels {}).course []).Aimed deselecting :=
    ⟨List.mem_cons_self, List.mem_cons_of_mem 1 List.mem_cons_self, trivial, trivial⟩
  obtain ⟨-, -, widgets, -⟩ := selected_course distinct {} nothing aimed
  exact ⟨distinct, nothing, aimed, widgets⟩

end Session

end Formwork
