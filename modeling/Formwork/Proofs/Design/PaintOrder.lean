import Formwork.Design.Project
import Mathlib.Data.List.Nodup

/-!
# Painting order

Widgets are painted by ascending `z`, and those of equal `z` as they stand in the list.
`InPaintOrder` says this of a list beside the one it comes from: its widgets of each `z` are exactly
the widgets of that `z`, in the same order, so that none is lost and none repeated.

There is only one such list (`InPaintOrder.eq_paintOrder`). So some of the widgets are painted in
the order in which they are painted among all (`paintOrder_filter`), and those that lie below all
others are painted before them (`paintOrder_eq_append`).
-/

set_option autoImplicit false

namespace Formwork

/-- The widgets of a list in the order in which they are painted. -/
structure InPaintOrder (ws painted : List Widget) : Prop where
  ascending : painted.Pairwise fun v w => v.z ≤ w.z
  stable : ∀ z : Int, painted.filter (fun w => w.z = z) = ws.filter fun w => w.z = z

section Sorting

private theorem z_le_trans (u v w : Widget) (first : decide (u.z ≤ v.z) = true)
    (second : decide (v.z ≤ w.z) = true) : decide (u.z ≤ w.z) = true :=
  decide_eq_true (Int.le_trans (of_decide_eq_true first) (of_decide_eq_true second))

private theorem z_le_total (v w : Widget) :
    (decide (v.z ≤ w.z) || decide (w.z ≤ v.z)) = true := by
  rw [Bool.or_eq_true, decide_eq_true_eq, decide_eq_true_eq]
  exact Int.le_total v.z w.z

variable (ws : List Widget)

theorem perm_paintOrder : (paintOrder ws).Perm ws := List.mergeSort_perm ws _

/-- The widgets of one `z` stay as they are, being sorted already. -/
private theorem filter_paintOrder (z : Int) :
    (paintOrder ws).filter (fun w => w.z = z) = ws.filter fun w => w.z = z := by
  have ties : (ws.filter fun w => w.z = z).Pairwise fun v w => decide (v.z ≤ w.z) = true := by
    refine List.pairwise_of_forall_mem_list fun v hv w hw => decide_eq_true ?_
    have left : v.z = z := of_decide_eq_true (List.mem_filter.1 hv).2
    have right : w.z = z := of_decide_eq_true (List.mem_filter.1 hw).2
    exact Int.le_of_eq (left.trans right.symm)
  have kept : (ws.filter fun w => w.z = z).Sublist (paintOrder ws) :=
    List.sublist_mergeSort z_le_trans z_le_total ties List.filter_sublist
  have among : (ws.filter fun w => w.z = z).Sublist
      ((paintOrder ws).filter fun w => w.z = z) := by
    have both := kept.filter fun w => w.z = z
    rwa [List.filter_filter, funext fun w : Widget => Bool.and_self (decide (w.z = z))] at both
  exact (among.eq_of_length ((perm_paintOrder ws).filter _).length_eq.symm).symm

theorem inPaintOrder_paintOrder : InPaintOrder ws (paintOrder ws) where
  ascending := (List.pairwise_mergeSort z_le_trans z_le_total ws).imp of_decide_eq_true
  stable := filter_paintOrder ws

end Sorting

/-! ## The order is the only one -/

private theorem mem_of_filter_eq {vs ws : List Widget}
    (same : ∀ z : Int, vs.filter (fun w => w.z = z) = ws.filter fun w => w.z = z) :
    ∀ w ∈ vs, w ∈ ws := by
  intro w hw
  have tied : w ∈ vs.filter fun v => v.z = w.z := List.mem_filter.2 ⟨hw, decide_eq_true rfl⟩
  rw [same] at tied
  exact (List.mem_filter.1 tied).1

private theorem z_le_of_mem {v w : Widget} {vs : List Widget}
    (ascends : (v :: vs).Pairwise fun v w => v.z ≤ w.z) (hw : w ∈ v :: vs) : v.z ≤ w.z := by
  rcases List.mem_cons.1 hw with rfl | later
  · exact Int.le_refl w.z
  · exact List.rel_of_pairwise_cons ascends later

/-- Widgets that ascend are known by those of each `z`. -/
theorem eq_of_ascending {vs ws : List Widget} (ascends : vs.Pairwise fun v w => v.z ≤ w.z)
    (ascends' : ws.Pairwise fun v w => v.z ≤ w.z)
    (same : ∀ z : Int, vs.filter (fun w => w.z = z) = ws.filter fun w => w.z = z) : vs = ws := by
  induction vs generalizing ws with
  | nil =>
    have absent := mem_of_filter_eq fun z => (same z).symm
    exact (List.eq_nil_iff_forall_not_mem.2 fun w hw => nomatch absent w hw).symm
  | cons v vs ih =>
    have mem := mem_of_filter_eq same v List.mem_cons_self
    cases ws with
    | nil => exact nomatch mem
    | cons w ws =>
      have mem' := mem_of_filter_eq (fun z => (same z).symm) w List.mem_cons_self
      have level : v.z = w.z :=
        Int.le_antisymm (z_le_of_mem ascends mem') (z_le_of_mem ascends' mem)
      have ties := same w.z
      rw [List.filter_cons_of_pos (by simpa using level),
        List.filter_cons_of_pos (by simp)] at ties
      obtain ⟨rfl, ties⟩ := List.cons.inj ties
      refine congrArg (v :: ·) (ih ascends.of_cons ascends'.of_cons fun z => ?_)
      by_cases here : v.z = z
      · exact here ▸ ties
      · have others := same z
        rwa [List.filter_cons_of_neg (by simpa using here),
          List.filter_cons_of_neg (by simpa using here)] at others

theorem InPaintOrder.eq_paintOrder {ws painted : List Widget} (h : InPaintOrder ws painted) :
    painted = paintOrder ws :=
  eq_of_ascending h.ascending (inPaintOrder_paintOrder ws).ascending fun z =>
    (h.stable z).trans ((inPaintOrder_paintOrder ws).stable z).symm

section Parts

variable {ws : List Widget} {p : Widget → Bool}

/-- Some of the widgets are painted in the order in which they are painted among all. -/
theorem paintOrder_filter : paintOrder (ws.filter p) = (paintOrder ws).filter p := by
  refine (InPaintOrder.eq_paintOrder ⟨?_, fun z => ?_⟩).symm
  · exact (inPaintOrder_paintOrder ws).ascending.sublist List.filter_sublist
  · rw [List.filter_comm, (inPaintOrder_paintOrder ws).stable, List.filter_comm]

/-- Elements that are all on one side stay as they are when the sides are set apart. -/
private theorem filter_append_filter_not {vs : List Widget}
    (oneSide : ∀ v ∈ vs, p v = true → ∀ w ∈ vs, p w = true) :
    vs.filter p ++ vs.filter (fun w => !p w) = vs := by
  by_cases any : ∃ v ∈ vs, p v = true
  · obtain ⟨v, hv, low⟩ := any
    have all := oneSide v hv low
    have others : vs.filter (fun w => !p w) = [] :=
      List.filter_eq_nil_iff.2 fun w hw => by simp [all w hw]
    rw [List.filter_eq_self.2 all, others, List.append_nil]
  · have others : ∀ w ∈ vs, ¬ p w = true := fun w hw low => any ⟨w, hw, low⟩
    have all : vs.filter (fun w => !p w) = vs :=
      List.filter_eq_self.2 fun w hw => by simpa using others w hw
    rw [List.filter_eq_nil_iff.2 others, all, List.nil_append]

/-- Where some widgets lie below all others, they are painted first. -/
theorem paintOrder_eq_append
    (below : ∀ v ∈ ws.filter p, ∀ w ∈ ws.filter (fun w => !p w), v.z < w.z) :
    paintOrder ws = paintOrder (ws.filter p) ++ paintOrder (ws.filter fun w => !p w) := by
  have mem {q : Widget → Bool} {w : Widget} : w ∈ paintOrder (ws.filter q) → w ∈ ws.filter q :=
    (perm_paintOrder _).mem_iff.1
  refine (InPaintOrder.eq_paintOrder ⟨?_, fun z => ?_⟩).symm
  · exact List.pairwise_append.2 ⟨(inPaintOrder_paintOrder _).ascending,
      (inPaintOrder_paintOrder _).ascending,
      fun v hv w hw => Int.le_of_lt (below v (mem hv) w (mem hw))⟩
  · -- Widgets of one `z` are all on the same side.
    rw [List.filter_append, (inPaintOrder_paintOrder _).stable, (inPaintOrder_paintOrder _).stable,
      List.filter_comm, List.filter_comm _ fun w => !p w]
    refine filter_append_filter_not fun v hv low w hw => ?_
    obtain ⟨hv, level⟩ := List.mem_filter.1 hv
    obtain ⟨hw, level'⟩ := List.mem_filter.1 hw
    by_contra high
    have apart := below v (List.mem_filter.2 ⟨hv, low⟩) w
      (List.mem_filter.2 ⟨hw, by simpa using high⟩)
    simp only [decide_eq_true_eq] at level level'
    omega

/-- Widgets that lie one above the other are painted from the lowest one on. -/
theorem paintOrder_eq_of_perm {vs : List Widget} (perm : vs.Perm ws)
    (rising : vs.Pairwise fun v w => v.z < w.z) : paintOrder ws = vs := by
  have distinct : (vs.map Widget.z).Nodup := List.pairwise_map.2 (rising.imp Int.ne_of_lt)
  refine ((perm_paintOrder ws).trans perm.symm).eq_of_pairwise ?_
    (inPaintOrder_paintOrder ws).ascending (rising.imp Int.le_of_lt)
  intro v w hv hw low high
  have hv : v ∈ vs := ((perm_paintOrder ws).trans perm.symm).mem_iff.1 hv
  exact List.inj_on_of_nodup_map distinct hv hw (Int.le_antisymm low high)

end Parts

end Formwork
