import Formwork.Proofs.Source.Unstacked
import Formwork.Session.Edit

/-!
# Generated code and the order of the areas

A module is written area by area. Of the list of widgets it shows the six lists that are left when
the widgets of one area are kept, and not how these are interleaved; of a widget it shows nothing of
its place in the painting order. Two designs with the same canvas and switches that agree in this
(`Project.SameAreas`) are written alike.

Nothing else of the list is read: the imports and the helpers ask only whether some widget is of a
kind, and every widget is in an area. `Rearranged` says the same step by step: neighbours of
different areas may change places, and every `z` may be another one.
-/

set_option autoImplicit false

namespace Formwork

namespace Source

/-- A kind is used where it is used in some area. -/
theorem uses_iff {p : Project} {k : Kind} :
    uses p k = true ↔ ∃ a, ∃ w ∈ p.inArea a, w.kind = k := by
  rw [uses, List.any_eq_true]
  constructor
  · rintro ⟨w, hw, same⟩
    exact ⟨w.area, w, List.mem_filter.2 ⟨hw, beq_self_eq_true w.area⟩, beq_iff_eq.1 same⟩
  · rintro ⟨a, w, hw, same⟩
    exact ⟨w, (List.mem_filter.1 hw).1, beq_iff_eq.2 same⟩

section Congr

variable {p q : Project} (areas : p.inArea = q.inArea)

include areas

theorem uses_congr : uses p = uses q := by
  funext k
  rw [Bool.eq_iff_iff, uses_iff, uses_iff, areas]

theorem panelExtent_congr : panelExtent p = panelExtent q := by
  funext panel
  rw [panelExtent, panelExtent, areas]

theorem fields_congr (panels : p.panels = q.panels) : fields p = fields q := by
  rw [fields, fields, panels, areas]

theorem windowSize_congr (canvas : p.canvas = q.canvas) (panels : p.panels = q.panels) :
    windowSize p = windowSize q := by
  have extents := panelExtent_congr areas
  simp only [windowSize, withPanels, canvas, panels, extents]

theorem uiFunction_congr (canvas : p.canvas = q.canvas) : uiFunction p = uiFunction q := by
  have extents := panelExtent_congr areas
  simp only [uiFunction, panelCode, canvasCode, areas, canvas, extents]

theorem moduleBody_congr (canvas : p.canvas = q.canvas) (panels : p.panels = q.panels)
    (f : Format) : moduleBody p f = moduleBody q f := by
  have used := uses_congr areas
  have state := fields_congr areas panels
  have window := windowSize_congr areas canvas panels
  have ui := uiFunction_congr areas canvas
  simp only [moduleBody, imports, standardImports, libraryModules, helpers, stateClass, mainCode,
    used, state, window, ui]

end Congr

end Source

/-- Designs with one canvas and the same switches whose areas hold the same widgets in the same
order, up to `z`. -/
structure Project.SameAreas (p q : Project) : Prop where
  canvas : p.canvas = q.canvas
  panels : p.panels = q.panels
  areas : ∀ a, (p.inArea a).map Widget.unstacked = (q.inArea a).map Widget.unstacked

/-- Such designs agree, without their painting order, in every area. -/
theorem Project.SameAreas.inArea_unstacked {p q : Project} (same : p.SameAreas q) :
    p.unstacked.inArea = q.unstacked.inArea := by
  funext a
  rw [Source.inArea_unstacked, Source.inArea_unstacked, same.areas a]

/-! ## Rearranging -/

/-- Lists of widgets of which one becomes the other when neighbours of different areas change places
and values of `z` are replaced. -/
inductive Rearranged : List Widget → List Widget → Prop where
  | swap (before after : List Widget) {v w : Widget} (apart : v.area ≠ w.area) :
    Rearranged (before ++ v :: w :: after) (before ++ w :: v :: after)
  | restack {ws vs : List Widget} (same : ws.map Widget.unstacked = vs.map Widget.unstacked) :
    Rearranged ws vs
  | trans {ws vs us : List Widget} (first : Rearranged ws vs) (second : Rearranged vs us) :
    Rearranged ws us

namespace Rearranged

/-- Of two neighbours of different areas at most one is in an area. -/
theorem filter_swap {v w : Widget} (apart : v.area ≠ w.area) (a : Area) (after : List Widget) :
    (v :: w :: after).filter (fun u => u.area == a) =
      (w :: v :: after).filter fun u => u.area == a := by
  by_cases first : v.area = a
  · have shown : (v.area == a) = true := beq_iff_eq.2 first
    have other : (w.area == a) = false := beq_eq_false_iff_ne.2 (first ▸ apart.symm)
    simp only [List.filter_cons, shown, other, if_true, Bool.false_eq_true, if_false]
  · have other : (v.area == a) = false := beq_eq_false_iff_ne.2 first
    simp only [List.filter_cons, other, Bool.false_eq_true, if_false]

/-- Rearranging leaves the order within every area. -/
theorem map_filter_eq {ws vs : List Widget} (h : Rearranged ws vs) (a : Area) :
    (ws.filter fun u => u.area == a).map Widget.unstacked =
      (vs.filter fun u => u.area == a).map Widget.unstacked := by
  induction h with
  | swap before after apart => rw [List.filter_append, List.filter_append, filter_swap apart]
  | restack same =>
    have general (us : List Widget) : (us.map Widget.unstacked).filter (fun u => u.area == a) =
        (us.filter fun u => u.area == a).map Widget.unstacked := List.filter_map
    rw [← general, ← general, same]
  | trans _ _ first second => exact first.trans second

theorem sameAreas {p : Project} {ws : List Widget} (h : Rearranged p.widgets ws) :
    p.SameAreas { p with widgets := ws } := ⟨rfl, rfl, h.map_filter_eq⟩

end Rearranged

/-- **A module depends on the order within areas alone.** Designs that agree in every area are
written alike. So a design may be rearranged, widgets of different areas against each other and in
the painting order, and its module stays the same. -/
theorem Project.generate_of_sameAreas (p : Project) (f : Source.Format) (comments : Bool) :
    (∀ q : Project, p.SameAreas q → p.generate f comments = q.generate f comments) ∧
      ∀ ws, Rearranged p.widgets ws →
        p.generate f comments = { p with widgets := ws }.generate f comments := by
  have written {q : Project} (same : p.SameAreas q) :
      p.generate f comments = q.generate f comments := by
    rw [← generate_unstacked p, ← generate_unstacked q, generate, generate, Source.moduleCode,
      Source.moduleCode,
      Source.moduleBody_congr same.inArea_unstacked same.canvas same.panels]
  exact ⟨fun q same => written same, fun ws moved => written moved.sameAreas⟩

/-- Two labels at the top, and a button at the left between them. -/
def Project.interleaved : Project :=
  { widgets := [Session.newWidget 1 .label {} .top, Session.newWidget 2 .button {} .left,
      Session.newWidget 3 .label {} .top] }

/-- The same widgets, the button last, and the labels painted in the opposite order. -/
def Project.separated : Project :=
  { widgets := [{ Session.newWidget 1 .label {} .top with z := 3 },
      { Session.newWidget 3 .label {} .top with z := 1 }, Session.newWidget 2 .button {} .left] }

theorem Project.generate_of_sameAreas_separated :
    interleaved.SameAreas separated ∧ Rearranged interleaved.widgets separated.widgets ∧
      interleaved.generate .single true = separated.generate .single true := by
  have same : interleaved.SameAreas separated := ⟨rfl, rfl, fun a => by cases a <;> rfl⟩
  have moved : Rearranged interleaved.widgets separated.widgets :=
    .trans (.swap [Session.newWidget 1 .label {} .top] [] (by decide)) (.restack rfl)
  exact ⟨same, moved, (generate_of_sameAreas interleaved .single true).1 separated same⟩

end Formwork
