import Formwork.Proofs.Design.PaintOrder
import Formwork.Proofs.Session.Selection

/-!
# To the front and to the back

The two commands that change the painting order give the selected widgets new heights, above those
of all widgets or below them, and leave everything else as it is (`Session.lift`). In every area the
widgets that are not selected are painted in the order in which they were painted before; the
selected ones come behind them in the order of selection, or before them in the reverse of that
order (`paintOrder_stacked`). Ids of the selection that no widget has are passed over.

The heights are counted from the top or the bottom of the whole design, selected widgets and other
areas included, so there is no tie with any other widget, whatever ties there were.
-/

set_option autoImplicit false

namespace Formwork

/-- The widget at the height for its id. -/
def Widget.lifted (z : Int → Int) (w : Widget) : Widget := { w with z := z w.id }

namespace Session

/-- A widget at the height for its id if it is selected, otherwise as it is. -/
def lifted (s : Session) (z : Int → Int) (w : Widget) : Widget :=
  if s.isSelected w.id then w.lifted z else w

/-- The session with the selected widgets at other heights, and nothing else changed. -/
def lift (s : Session) (z : Int → Int) : Session :=
  { s with project := { s.project with widgets := s.project.widgets.map (s.lifted z) } }

/-- The selected widgets of an area, in the order of selection. -/
def selectedIn (s : Session) (a : Area) : List Widget :=
  s.selectedWidgets.filter fun w => w.area == a

/-- The widgets of a list that are not selected. -/
def unselected (s : Session) (ws : List Widget) : List Widget :=
  ws.filter fun w => !s.isSelected w.id

variable {s : Session} {a : Area} {z : Int → Int}

/-! ## Heights -/

theorem z_le_top {p : Project} : ∀ w ∈ p.widgets, w.z ≤ top p := by
  unfold top
  split
  next nothing => exact fun w hw => nomatch (nothing ▸ hw : w ∈ [])
  next w ws widgets =>
    rw [widgets]
    exact List.forall_mem_cons.2 (Project.foldl_max_le Widget.z ws w.z)

theorem bottom_le_z {p : Project} : ∀ w ∈ p.widgets, bottom p ≤ w.z := by
  unfold bottom
  split
  next nothing => exact fun w hw => nomatch (nothing ▸ hw : w ∈ [])
  next w ws widgets =>
    rw [widgets]
    exact List.forall_mem_cons.2 (Project.rel_foldl (R := fun m n => n ≤ m) Int.le_refl
      (fun _ _ _ h k => Int.le_trans k h) Int.min_le_left Int.min_le_right Widget.z ws w.z)

/-- The height that an id gets when ids are stacked one after the other. -/
def heightIn (ids : List Int) (z step id : Int) : Int := z + step * ids.idxOf id

/-- A widget after the stacking of ids. -/
def stacked (ids : List Int) (z step : Int) (w : Widget) : Widget :=
  if w.id ∈ ids then w.lifted (heightIn ids z step) else w

theorem stacked_cons {id : Int} {ids : List Int} (new : id ∉ ids) (z step : Int) (w : Widget) :
    stacked ids (z + step) step (if w.id == id then { w with z } else w) =
      stacked (id :: ids) z step w := by
  by_cases here : w.id = id
  · have first : heightIn (id :: ids) z step w.id = z := by
      rw [heightIn, here, List.idxOf_cons_self]
      omega
    rw [if_pos (beq_iff_eq.2 here), stacked, stacked, if_neg (here ▸ new),
      if_pos (here ▸ List.mem_cons_self), Widget.lifted, first]
  · have later : heightIn (id :: ids) z step w.id = heightIn ids (z + step) step w.id := by
      rw [heightIn, heightIn, List.idxOf_cons_ne ids (Ne.symm here), Nat.succ_eq_add_one,
        Int.natCast_add, Int.mul_add]
      omega
    have mem : w.id ∈ id :: ids ↔ w.id ∈ ids := by rw [List.mem_cons, or_iff_right here]
    rw [if_neg (mt beq_iff_eq.1 here), stacked, stacked, Widget.lifted, Widget.lifted, later]
    exact (if_congr mem rfl rfl).symm

/-- Where no id is named twice, all widgets are stacked at once. -/
theorem stack_eq_map {ids : List Int} (once : ids.Nodup) (z step : Int) :
    s.stack z step ids = { s with project := { s.project with
      widgets := s.project.widgets.map (stacked ids z step) } } := by
  induction ids generalizing s z with
  | nil =>
    have same : s.project.widgets.map (stacked [] z step) = s.project.widgets :=
      (List.map_congr_left fun w _ => if_neg List.not_mem_nil).trans (List.map_id _)
    rw [same, stack]
  | cons id ids ih =>
    obtain ⟨new, once⟩ := List.nodup_cons.1 once
    rw [stack, ih once, update, Project.update, List.map_map]
    exact congrArg (fun ws => { s with project := { s.project with widgets := ws } })
      (List.map_congr_left fun w _ => stacked_cons new z step w)

/-! ## The selected widgets -/

section Selected

variable (once : s.selected.Nodup)
include once

/-- Stacking the selected widgets lifts them. -/
theorem stack_selectedWidgets (z step : Int) :
    s.stack z step (s.selectedWidgets.map Widget.id) =
      s.lift (heightIn (s.selectedWidgets.map Widget.id) z step) := by
  rw [stack_eq_map (nodup_map_id_selectedWidgets once), lift]
  refine congrArg (fun ws => { s with project := { s.project with widgets := ws } })
    (List.map_congr_left fun w hw => ?_)
  have held : w.id ∈ s.ids := List.mem_map_of_mem hw
  have mem : w.id ∈ s.selectedWidgets.map Widget.id ↔ s.isSelected w.id = true := by
    rw [map_id_selectedWidgets, List.mem_filter, isSelected, List.contains_iff_mem,
      and_iff_left (decide_eq_true held)]
  exact if_congr mem rfl rfl

/-- What is selected later comes later. -/
theorem pairwise_idxOf_selectedWidgets :
    s.selectedWidgets.Pairwise fun v w => (s.selectedWidgets.map Widget.id).idxOf v.id <
      (s.selectedWidgets.map Widget.id).idxOf w.id := by
  have distinct := nodup_map_id_selectedWidgets once
  generalize s.selectedWidgets = ws at distinct ⊢
  refine List.pairwise_iff_getElem.2 fun i j hi hj earlier => ?_
  have place (k : Nat) (hk : k < ws.length) : (ws.map Widget.id).idxOf ws[k].id = k := by
    have found := distinct.idxOf_getElem k (by simpa using hk)
    rwa [List.getElem_map] at found
  rwa [place i hi, place j hj]

/-- The selected widgets of an area are those that are selected, in another order. -/
theorem perm_selectedIn (distinct : s.ids.Nodup) (a : Area) :
    (s.selectedIn a).Perm ((s.project.inArea a).filter fun w => s.isSelected w.id) := by
  have widgets : s.project.widgets.Nodup := List.Nodup.of_map Widget.id distinct
  have selected : s.selectedWidgets.Nodup :=
    List.Nodup.of_map Widget.id (nodup_map_id_selectedWidgets once)
  have others := (widgets.filter fun w => w.area == a).filter fun w => s.isSelected w.id
  refine (List.perm_ext_iff_of_nodup (selected.filter _) others).2 fun w => ?_
  simp only [List.mem_filter, mem_selectedWidgets distinct, isSelected, List.contains_iff_mem]
  exact and_right_comm

end Selected

/-! ## Painting -/

theorem id_lifted (w : Widget) : (s.lifted z w).id = w.id := by
  unfold lifted
  split <;> rfl

theorem area_lifted (w : Widget) : (s.lifted z w).area = w.area := by
  unfold lifted
  split <;> rfl

theorem inArea_lift : (s.lift z).project.inArea a = (s.project.inArea a).map (s.lifted z) := by
  rw [Project.inArea, lift, List.filter_map]
  exact congrArg (List.map _) (List.filter_congr fun w _ => congrArg (· == a) (area_lifted w))

/-- What is said of ids picks the same widgets of an area as before. -/
theorem filter_inArea_lift (p : Int → Bool) :
    ((s.lift z).project.inArea a).filter (fun w => p w.id) =
      ((s.project.inArea a).filter fun w => p w.id).map (s.lifted z) := by
  have same : ((fun w : Widget => p w.id) ∘ s.lifted z) = fun w => p w.id :=
    funext fun w => congrArg p (id_lifted w)
  rw [inArea_lift, List.filter_map, same]

theorem selected_inArea_lift : ((s.lift z).project.inArea a).filter (fun w => s.isSelected w.id) =
    ((s.project.inArea a).filter fun w => s.isSelected w.id).map (Widget.lifted z) := by
  rw [filter_inArea_lift]
  exact List.map_congr_left fun w hw => if_pos (List.mem_filter.1 hw).2

theorem unselected_inArea_lift :
    s.unselected ((s.lift z).project.inArea a) = s.unselected (s.project.inArea a) := by
  rw [unselected, filter_inArea_lift fun id => !s.isSelected id]
  refine (List.map_congr_left fun w hw => if_neg ?_).trans (List.map_id _)
  simpa using (List.mem_filter.1 hw).2

section Painted

variable (distinct : s.ids.Nodup) (once : s.selected.Nodup)
include distinct once

/-- Selected widgets that lie one above the other are painted from the lowest one on. -/
theorem paintOrder_selected_inArea_lift {ws : List Widget} (perm : ws.Perm (s.selectedIn a))
    (rising : ws.Pairwise fun v w => z v.id < z w.id) :
    paintOrder (((s.lift z).project.inArea a).filter fun w => s.isSelected w.id) =
      ws.map (Widget.lifted z) := by
  refine paintOrder_eq_of_perm ?_ (List.pairwise_map.2 rising)
  rw [selected_inArea_lift]
  exact (perm.trans (perm_selectedIn once distinct a)).map _

theorem mem_of_mem_selected_inArea_lift {w : Widget}
    (hw : w ∈ ((s.lift z).project.inArea a).filter fun w => s.isSelected w.id) :
    ∃ v ∈ s.selectedWidgets, w.z = z v.id := by
  rw [selected_inArea_lift] at hw
  obtain ⟨v, hv, rfl⟩ := List.mem_map.1 hw
  have mem := (perm_selectedIn once distinct a).mem_iff.2 hv
  exact ⟨v, (List.mem_filter.1 mem).1, rfl⟩

/-- Widgets that are lifted above all others are painted last. -/
theorem paintOrder_lift_above
    (above : ∀ v ∈ s.project.widgets, ∀ w ∈ s.selectedWidgets, v.z < z w.id)
    (rising : s.selectedWidgets.Pairwise fun v w => z v.id < z w.id) (a : Area) :
    paintOrder ((s.lift z).project.inArea a) =
      s.unselected (paintOrder (s.project.inArea a)) ++ (s.selectedIn a).map (Widget.lifted z) := by
  have low : ((s.lift z).project.inArea a).filter (fun w => !s.isSelected w.id) =
      s.unselected (s.project.inArea a) := unselected_inArea_lift
  have high : ((s.lift z).project.inArea a).filter (fun w => !!s.isSelected w.id) =
      ((s.lift z).project.inArea a).filter fun w => s.isSelected w.id := by
    simp only [Bool.not_not]
  have painted := paintOrder_selected_inArea_lift distinct once (.refl (s.selectedIn a))
    (rising.sublist List.filter_sublist)
  rw [paintOrder_eq_append (p := fun w => !s.isSelected w.id), low, high, painted, unselected,
    paintOrder_filter]
  · rfl
  · rw [low, high]
    intro v hv w hw
    obtain ⟨u, hu, height⟩ := mem_of_mem_selected_inArea_lift distinct once hw
    rw [height]
    exact above v (List.mem_filter.1 (List.mem_filter.1 hv).1).1 u hu

/-- Widgets that are put below all others are painted first. -/
theorem paintOrder_lift_below
    (below : ∀ v ∈ s.project.widgets, ∀ w ∈ s.selectedWidgets, z w.id < v.z)
    (falling : s.selectedWidgets.Pairwise fun v w => z w.id < z v.id) (a : Area) :
    paintOrder ((s.lift z).project.inArea a) =
      (s.selectedIn a).reverse.map (Widget.lifted z) ++
        s.unselected (paintOrder (s.project.inArea a)) := by
  have high : ((s.lift z).project.inArea a).filter (fun w => !s.isSelected w.id) =
      s.unselected (s.project.inArea a) := unselected_inArea_lift
  have painted := paintOrder_selected_inArea_lift distinct once (List.reverse_perm (s.selectedIn a))
    (List.pairwise_reverse.2 (falling.sublist List.filter_sublist))
  rw [paintOrder_eq_append (p := fun w => s.isSelected w.id), high, painted, unselected,
    paintOrder_filter]
  · rfl
  · rw [high]
    intro v hv w hw
    obtain ⟨u, hu, height⟩ := mem_of_mem_selected_inArea_lift distinct once hv
    rw [height]
    exact below w (List.mem_filter.1 (List.mem_filter.1 hw).1).1 u hu

end Painted

/-- **The selection is moved as a block.** In a session where no two widgets have one id and no id
is selected twice, bringing to the front and sending to the back change nothing but the heights of
the selected widgets. In each area the selected widgets are painted in the order of selection,
behind all others of the area, or in the reverse of that order, before all others; and the others
are painted in the order in which they were painted before. -/
theorem paintOrder_stacked (distinct : s.ids.Nodup) (once : s.selected.Nodup) :
    (∃ z, s.bringToFront = s.lift z ∧ ∀ a, paintOrder (s.bringToFront.project.inArea a) =
      s.unselected (paintOrder (s.project.inArea a)) ++ (s.selectedIn a).map (Widget.lifted z)) ∧
    (∃ z, s.sendToBack = s.lift z ∧ ∀ a, paintOrder (s.sendToBack.project.inArea a) =
      (s.selectedIn a).reverse.map (Widget.lifted z) ++
        s.unselected (paintOrder (s.project.inArea a))) := by
  have rises := pairwise_idxOf_selectedWidgets once
  constructor
  · have lifted : s.bringToFront = s.lift _ := stack_selectedWidgets once (top s.project + 1) 1
    refine ⟨_, lifted, lifted ▸ paintOrder_lift_above distinct once ?_ (rises.imp ?_)⟩
    · intro v hv w _
      have := z_le_top v hv
      rw [heightIn]
      omega
    · intro v w later
      rw [heightIn, heightIn]
      omega
  · have lifted : s.sendToBack = s.lift _ := stack_selectedWidgets once (bottom s.project - 1) (-1)
    refine ⟨_, lifted, lifted ▸ paintOrder_lift_below distinct once ?_ (rises.imp ?_)⟩
    · intro v hv w _
      have := bottom_le_z v hv
      rw [heightIn]
      omega
    · intro v w later
      rw [heightIn, heightIn]
      omega

/-- Three labels at one height, of which the third and the first are selected, and an id that no
widget has. -/
def tied : Session where
  project := { widgets := [1, 2, 3].map fun id => { newWidget id .label {} .free with z := 0 } }
  selected := [3, 7, 1]

/-- The second label comes first or last. -/
theorem paintOrder_stacked_tied :
    tied.ids.Nodup ∧ tied.selected.Nodup ∧
      (paintOrder (tied.bringToFront.project.inArea .free)).map Widget.id = [2, 3, 1] ∧
      (paintOrder (tied.sendToBack.project.inArea .free)).map Widget.id = [1, 3, 2] := by
  have distinct : tied.ids.Nodup := by decide
  have once : tied.selected.Nodup := by decide
  have before : paintOrder (tied.project.inArea .free) = tied.project.widgets :=
    (InPaintOrder.eq_paintOrder ⟨by decide, fun _ => rfl⟩).symm
  obtain ⟨⟨z, -, front⟩, ⟨y, -, back⟩⟩ := paintOrder_stacked distinct once
  refine ⟨distinct, once, ?_, ?_⟩
  · rw [front, before]
    rfl
  · rw [back, before]
    rfl

end Session

end Formwork
