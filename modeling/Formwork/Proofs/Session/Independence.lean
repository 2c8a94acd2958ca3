import Formwork.Proofs.Session.Arrangement

/-!
# Horizontal and vertical have nothing to do with each other

What an arrangement along one axis sets does not show along the other (`strips_rewrite_of_ne`), so
that the second of two arrangements finds the same plan as if it were the first
(`arrange_rewrite`). Two arrangements along different axes may therefore be done in either order
(`arrange_arrange_comm`). The text that is generated last does not give the order away: each
generates after what it has set, and in the end it is the text of the same design.

What an arrangement sets may also be what it would find again. Then doing it twice is doing it once.
-/

set_option autoImplicit false

namespace Formwork.Session

variable {s : Session} {c : Coordinate} {axis : Axis}

/-! ## Two arrangements -/

theorem ids_rewrite (s : Session) (c : Coordinate) (x : Strip → Binary64) :
    (s.rewrite c x).touch.2.ids = s.ids := by
  rw [ids, project_touch, ids, Project.ids, rewrite, List.map_map]
  exact List.map_congr_left fun w _ => s.id_rewritten c x w

/-- An arrangement along one axis goes by what was there before another axis was arranged. -/
theorem arrange_rewrite (distinct : s.ids.Nodup) (apart : c.axis ≠ axis) (x : Strip → Binary64)
    (a : Arrangement) : (s.rewrite c x).touch.2.arrange axis a =
      (a.plan (s.strips axis a.least)).elim (s.rewrite c x).touch.2 fun y =>
        ((s.rewrite c x).rewrite (a.coordinate axis) y).touch.2 := by
  rw [arrange_eq (by rwa [ids_rewrite]), strips_touch, strips_rewrite_of_ne apart]
  cases a.plan (s.strips axis a.least) with
  | none => rfl
  | some y => exact congrArg Prod.snd (touch_rewrite_touch _ _ y)

/-- Arrangements along different axes may be done in either order. -/
theorem arrange_arrange_comm (distinct : s.ids.Nodup) {axis axis' : Axis} (apart : axis ≠ axis')
    (a b : Arrangement) :
    (s.arrange axis a).arrange axis' b = (s.arrange axis' b).arrange axis a := by
  have first : (a.coordinate axis).axis ≠ axis' := by rwa [a.axis_coordinate]
  have second : (b.coordinate axis').axis ≠ axis := by
    rw [b.axis_coordinate]
    exact Ne.symm apart
  have both : (a.coordinate axis).axis ≠ (b.coordinate axis').axis := by
    rwa [b.axis_coordinate]
  have done := arrange_eq distinct axis a
  have done' := arrange_eq distinct axis' b
  cases there : a.plan (s.strips axis a.least) with
  | none =>
    rw [there, Option.elim_none] at done
    cases there' : b.plan (s.strips axis' b.least) with
    | none =>
      rw [there', Option.elim_none] at done'
      rw [done, done', done]
    | some y =>
      rw [there', Option.elim_some] at done'
      rw [done, done', arrange_rewrite distinct second, there, Option.elim_none]
  | some x =>
    rw [there, Option.elim_some] at done
    cases there' : b.plan (s.strips axis' b.least) with
    | none =>
      rw [there', Option.elim_none] at done'
      rw [done', done, arrange_rewrite distinct first, there', Option.elim_none]
    | some y =>
      rw [there', Option.elim_some] at done'
      rw [done, done', arrange_rewrite distinct first, arrange_rewrite distinct second, there,
        there', Option.elim_some, Option.elim_some, rewrite_comm both]

/-- Where the same number is set everywhere, and would be set again, once is enough. -/
theorem arrange_arrange_of_const (distinct : s.ids.Nodup) {a : Arrangement} {e : Binary64}
    (plan : a.plan (s.strips axis a.least) = some fun _ => e)
    (again : a.plan ((s.strips axis a.least).map ((a.coordinate axis).setStrip e)) =
      some fun _ => e) : (s.arrange axis a).arrange axis a = s.arrange axis a := by
  have first : s.arrange axis a = (s.rewrite (a.coordinate axis) fun _ => e).touch.2 := by
    rw [arrange_eq distinct, plan, Option.elim_some]
  have strips : (s.arrange axis a).strips axis a.least =
      (s.strips axis a.least).map ((a.coordinate axis).setStrip e) := by
    rw [first, strips_touch, strips_rewrite (a.axis_coordinate axis)]
  rw [arrange_eq (by rwa [first, ids_rewrite]), strips, again, Option.elim_some, first,
    touch_rewrite_touch, rewrite_rewrite]

theorem foldl_lesser_self (e : Binary64) (bs : List Strip) :
    (bs.map fun b => { b with near := e }).foldl (fun x b => x.lesser b.near) e = e := by
  induction bs with
  | nil => rfl
  | cons b bs ih =>
    have same : e.lesser e = e := ite_self e
    rw [List.map_cons, List.foldl_cons, same, ih]

/-- Near edges that are aligned stay as they are when they are aligned again. -/
theorem arrange_near_idem (distinct : s.ids.Nodup) (axis : Axis) :
    (s.arrange axis (.align .near)).arrange axis (.align .near) =
      s.arrange axis (.align .near) := by
  cases strips : s.strips axis 2 with
  | nil =>
    have idle : s.arrange axis (.align .near) = s := by
      rw [arrange_eq distinct]
      show ((Arrangement.align .near).plan (s.strips axis 2)).elim s _ = s
      rw [strips]
      rfl
    rw [idle, idle]
  | cons first rest =>
    refine arrange_arrange_of_const distinct (congrArg (Arrangement.align .near).plan strips) ?_
    show (Arrangement.align .near).plan ((s.strips axis 2).map _) = _
    rw [strips, List.map_cons]
    exact congrArg some (funext fun _ => foldl_lesser_self _ rest)

/-- Extents that are matched stay as they are when they are matched again. -/
theorem arrange_matchExtent_idem (distinct : s.ids.Nodup) (axis : Axis) :
    (s.arrange axis .matchExtent).arrange axis .matchExtent = s.arrange axis .matchExtent := by
  cases strips : s.strips axis 2 with
  | nil =>
    have idle : s.arrange axis .matchExtent = s := by
      rw [arrange_eq distinct]
      show (Arrangement.matchExtent.plan (s.strips axis 2)).elim s _ = s
      rw [strips]
      rfl
    rw [idle, idle]
  | cons first rest =>
    refine arrange_arrange_of_const distinct (congrArg Arrangement.matchExtent.plan strips) ?_
    show Arrangement.matchExtent.plan ((s.strips axis 2).map _) = _
    rw [strips]
    rfl

/-- **Axes are independent.** In a session where no two widgets have one id, whatever is selected, a
horizontal and a vertical arrangement lead to the same session in either order. An arrangement does
nothing, or it sets its own coordinate of selected widgets, nothing else, and generates. Near edges
and extents that are made equal stay as they are when that is done again. -/
theorem arrange_independent (distinct : s.ids.Nodup) :
    (∀ h v : Arrangement, (s.arrange .horizontal h).arrange .vertical v =
      (s.arrange .vertical v).arrange .horizontal h) ∧
    (∀ axis, ∀ a : Arrangement, s.arrange axis a = s ∨
      ∃ x, s.arrange axis a = (s.rewrite (a.coordinate axis) x).touch.2) ∧
    (∀ axis, ∀ a ∈ [Arrangement.align .near, .matchExtent],
      (s.arrange axis a).arrange axis a = s.arrange axis a) := by
  refine ⟨fun h v => ?_, fun axis a => ?_, fun axis a mem => ?_⟩
  · exact arrange_arrange_comm distinct (by decide) h v
  · rw [arrange_eq distinct]
    cases a.plan (s.strips axis a.least) with
    | none => exact .inl rfl
    | some x => exact .inr ⟨x, rfl⟩
  · simp only [List.mem_cons, List.not_mem_nil, or_false] at mem
    rcases mem with rfl | rfl
    · exact arrange_near_idem distinct axis
    · exact arrange_matchExtent_idem distinct axis

/-- Three widgets, of which one is selected twice, and an id that no widget has. -/
def scattered : Session where
  project := { widgets := [newWidget 1 .label ⟨30, 5⟩ .free, newWidget 2 .button ⟨0, 40⟩ .free,
    newWidget 3 .heading ⟨12, 0⟩ .free] }
  selected := [3, 7, 1, 3]
  autoGenerate := true

theorem arrange_independent_scattered :
    scattered.ids.Nodup ∧
      (scattered.arrange .horizontal .distribute).arrange .vertical (.align .center) =
        (scattered.arrange .vertical (.align .center)).arrange .horizontal .distribute ∧
      (scattered.arrange .vertical .matchExtent).arrange .vertical .matchExtent =
        scattered.arrange .vertical .matchExtent := by
  have distinct : scattered.ids.Nodup := by decide
  obtain ⟨either, -, again⟩ := arrange_independent distinct
  exact ⟨distinct, either .distribute (.align .center), again .vertical .matchExtent (by simp)⟩

end Formwork.Session
