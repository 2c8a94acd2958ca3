import Formwork.Source.Module

/-!
# Generated code and the painting order

Widgets are drawn in the order of the list, so the values of `z`, which order them on an editor's
canvas, have no part in the generated module. `Project.unstacked` sets them all to zero, and
`generate_unstacked` says that this changes nothing in the module. Two designs that differ in `z`
alone are therefore written alike (`generate_congr`).
-/

set_option autoImplicit false

namespace Formwork

/-- The widget without its place in the painting order. -/
def Widget.unstacked (w : Widget) : Widget := { w with z := 0 }

/-- The design without its painting order. -/
def Project.unstacked (p : Project) : Project :=
  { p with widgets := p.widgets.map Widget.unstacked }

/-- A change of `z` alone is lost with the painting order. -/
theorem Project.unstacked_update {p : Project} {id : Int} {change : Widget → Widget}
    (stacking : ∀ w, (change w).unstacked = w.unstacked) :
    (p.update id change).unstacked = p.unstacked := by
  have widgets : (p.widgets.map fun w => if w.id == id then change w else w).map Widget.unstacked =
      p.widgets.map Widget.unstacked := by
    rw [List.map_map]
    apply List.map_congr_left
    intro w _
    by_cases named : (w.id == id) = true
    · rw [Function.comp_apply, if_pos named]
      exact stacking w
    · rw [Function.comp_apply, if_neg named]
  rw [unstacked, unstacked, update, widgets]

namespace Source

variable (p : Project)

theorem inArea_unstacked (a : Area) :
    p.unstacked.inArea a = (p.inArea a).map Widget.unstacked := List.filter_map

theorem uses_unstacked (k : Kind) : uses p.unstacked k = uses p k := List.any_map

theorem blocks_unstacked (ws : List Widget) : blocks (ws.map Widget.unstacked) = blocks ws :=
  List.flatMap_map _ _ ws

theorem panelExtent_unstacked (panel : Panel) :
    panelExtent p.unstacked panel = panelExtent p panel := by
  unfold panelExtent extent
  rw [inArea_unstacked, List.foldl_map]
  rfl

theorem fields_unstacked : fields p.unstacked = fields p := by
  have own (a : Area) :
      (p.unstacked.inArea a).filterMap fieldOf = (p.inArea a).filterMap fieldOf := by
    rw [inArea_unstacked, List.filterMap_map]
    rfl
  simp only [fields, own]
  rfl

theorem windowSize_unstacked : windowSize p.unstacked = windowSize p := by
  have extents : panelExtent p.unstacked = panelExtent p := funext (panelExtent_unstacked p)
  unfold windowSize withPanels
  rw [extents]
  rfl

theorem moduleBody_unstacked (f : Format) : moduleBody p.unstacked f = moduleBody p f := by
  have ui : uiFunction p.unstacked = uiFunction p := by
    simp only [uiFunction, panelCode, canvasCode, inArea_unstacked, blocks_unstacked,
      panelExtent_unstacked]
    rfl
  simp only [moduleBody, imports, standardImports, libraryModules, helpers, stateClass, mainCode,
    uses_unstacked, fields_unstacked, windowSize_unstacked, ui]

end Source

namespace Project

/-- The painting order has no part in the generated module. -/
theorem generate_unstacked (p : Project) (f : Source.Format) (comments : Bool) :
    p.unstacked.generate f comments = p.generate f comments := by
  unfold generate Source.moduleCode
  rw [Source.moduleBody_unstacked]

/-- Designs that differ in their painting order alone are written alike. -/
theorem generate_congr {p q : Project} (same : p.unstacked = q.unstacked) (f : Source.Format)
    (comments : Bool) : p.generate f comments = q.generate f comments := by
  rw [← generate_unstacked p, ← generate_unstacked q, same]

end Project

end Formwork
