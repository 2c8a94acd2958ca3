import Formwork.Design.Props

/-!
# Projects

A project is a list of placed widgets, a canvas and the four panel switches. Widgets keep the
order in which they were added; the drawing order of an area is by `z`, and widgets of equal `z`
keep their order in the list.
-/

set_option autoImplicit false

namespace Formwork

/-- A point, or an extent in two dimensions. -/
structure Vec where
  x : Binary64 := 0
  y : Binary64 := 0
  deriving DecidableEq

/-- A placed widget. The position is relative to the area it is docked in. -/
structure Widget where
  id : Int
  pos : Vec := {}
  size : Vec
  z : Int := 0
  area : Area := .free
  props : Props
  deriving DecidableEq

def Widget.kind (w : Widget) : Kind := w.props.kind

/-- Which panels are switched on. -/
structure Panels where
  top : Bool := false
  bottom : Bool := false
  left : Bool := false
  right : Bool := false
  deriving DecidableEq

def Panels.get (p : Panels) : Panel → Bool
  | .top => p.top
  | .bottom => p.bottom
  | .left => p.left
  | .right => p.right

def Panels.set (p : Panels) (which : Panel) (on : Bool) : Panels :=
  match which with
  | .top => { p with top := on }
  | .bottom => { p with bottom := on }
  | .left => { p with left := on }
  | .right => { p with right := on }

/-- A design. -/
structure Project where
  widgets : List Widget := []
  canvas : Vec := ⟨800, 600⟩
  panels : Panels := {}
  deriving DecidableEq

namespace Project

/-- The first widget with the given id. -/
def find? (p : Project) (id : Int) : Option Widget := p.widgets.find? fun w => w.id == id

/-- Widgets of one area, in list order. -/
def inArea (p : Project) (a : Area) : List Widget := p.widgets.filter fun w => w.area == a

/-- The largest id, or zero in an empty project. -/
def maxId (p : Project) : Int := p.widgets.foldl (fun m w => max m w.id) 0

/-- Is the area drawn? Only a panel can be switched off. -/
def isEnabled (p : Project) (a : Area) : Bool :=
  match a.panel? with
  | some panel => p.panels.get panel
  | none => true

/-- Switches a panel. -/
def setEnabled (p : Project) (a : Area) (on : Bool) : Except NameError Project :=
  match a.panel? with
  | some panel => .ok { p with panels := p.panels.set panel on }
  | none => .error (.notAPanel a.tag)

/-- Changes the widget with the given id. -/
def update (p : Project) (id : Int) (change : Widget → Widget) : Project :=
  { p with widgets := p.widgets.map fun w => if w.id == id then change w else w }

end Project

/-- Widgets by ascending `z`; those of equal `z` keep their order. -/
def paintOrder (ws : List Widget) : List Widget := ws.mergeSort fun v w => v.z ≤ w.z

end Formwork
