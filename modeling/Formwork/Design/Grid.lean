import Formwork.Design.Project

/-!
# The placement grid

A point is moved to the nearest multiple of the grid in each coordinate, a half going away from
zero. A grid that is not finite or not positive moves nothing.
-/

set_option autoImplicit false

namespace Formwork

/-- The multiple of the grid that is nearest to a coordinate. -/
def snapCoordinate (grid x : Binary64) : Except Binary64.RoundingError Binary64 :=
  (x / grid).roundAway.map fun n => n * grid

/-- A point moved to the grid. -/
def snapToGrid (grid : Binary64) (p : Vec) : Except Binary64.RoundingError Vec :=
  if grid.isFinite && Binary64.below 0 grid then do
    let x ← snapCoordinate grid p.x
    let y ← snapCoordinate grid p.y
    return ⟨x, y⟩
  else .ok p

end Formwork
