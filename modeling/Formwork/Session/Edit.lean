import Formwork.Session.Basic

/-!
# Placing, copying and deleting

Every widget that comes into a design by one of these commands takes the next id, which is its
`z` as well: it is painted above what was there.
-/

set_option autoImplicit false

namespace Formwork.Session

/-- Takes the next id. -/
def allocate (s : Session) : Session := { s with nextId := s.nextId + 1 }

/-- Adds a widget to the design, above those that are there. -/
def add (s : Session) (w : Widget) : Session :=
  { s with project := { s.project with widgets := s.project.widgets ++ [w] } }

/-- The corner of a widget of the given size whose centre is at `center`, seen from `origin`. -/
def cornerOf (center origin size : Vec) : Vec :=
  ⟨center.x - origin.x - size.x / 2, center.y - origin.y - size.y / 2⟩

/-- A new widget of a kind. -/
def newWidget (id : Int) (kind : Kind) (pos : Vec) (area : Area) : Widget where
  id := id
  pos := pos
  size := kind.defaultSize
  z := id
  area := area
  props := kind.defaultProps

/-- Places a new widget, centred on a point; `origin` is the corner of its area. The id is taken
even if the point cannot be moved to the grid. -/
def place (s : Session) (kind : Kind) (center : Vec) (area : Area := .free) (origin : Vec := {}) :
    Outcome Widget :=
  match s.snap (cornerOf center origin kind.defaultSize) with
  | .error e => (.error e, s.allocate)
  | .ok pos =>
    let w := newWidget s.nextId kind pos area
    ((s.allocate.add w).selectSingle w.id).touched w

/-- Deletes the widget with an id. -/
def delete (s : Session) (id : Int) : Outcome Bool :=
  let kept := s.project.widgets.filter fun w => w.id != id
  let removed := kept.length != s.project.widgets.length
  let rest := { s with
    project := { s.project with widgets := kept }
    selected := s.selected.erase id }
  if removed then rest.touched true else (.ok false, rest)

/-- Deletes the selected widgets and answers how many there were. -/
def deleteSelected (s : Session) : Outcome Nat :=
  let kept := s.project.widgets.filter fun w => !s.isSelected w.id
  let removed := s.project.widgets.length - kept.length
  let rest := { s with project := { s.project with widgets := kept }, selected := [] }
  if removed = 0 then (.ok 0, rest) else rest.touched removed

/-- How far a copy is moved from what it is a copy of. -/
def pasteOffset : Binary64 := 20

/-- A copy of a widget, moved a little, under an id of its own. -/
def copyOf (source : Widget) (id : Int) : Widget :=
  { source with
    id := id
    z := id
    pos := ⟨source.pos.x + pasteOffset, source.pos.y + pasteOffset⟩ }

/-- Adds a copy of a widget to the design. -/
def clone (s : Session) (source : Widget) : Session := s.allocate.add (copyOf source s.nextId)

/-- Adds a copy of each widget. -/
def cloneEach (s : Session) (sources : List Widget) : Session := sources.foldl clone s

/-- The ids that `count` copies take. -/
def nextIds (s : Session) (count : Nat) : List Int :=
  (List.range count).map fun i => s.nextId + (i : Nat)

/-- Copies the selected widgets and selects the copies; answers their ids. -/
def duplicateSelected (s : Session) : Outcome (List Int) :=
  match s.selectedWidgets with
  | [] => (.ok [], s)
  | sources =>
    let ids := s.nextIds sources.length
    { s.cloneEach sources with selected := ids }.touched ids

/-- Copies the widget selected first to the clipboard. -/
def copy (s : Session) : Outcome Bool :=
  match s.primary with
  | none => (.ok false, s)
  | some w => (.ok true, { s with clipboard := some w })

/-- Adds a copy of what the clipboard holds and selects it. -/
def paste (s : Session) : Outcome (Option Widget) :=
  match s.clipboard with
  | none => (.ok none, s)
  | some source =>
    ((s.clone source).selectSingle s.nextId).touched (some (copyOf source s.nextId))

/-! ## Properties -/

/-- Replaces the item lines of a widget; a selection is brought into their range. -/
def setItems (s : Session) (id : Int) (items : List String) : Outcome Widget :=
  match s.widget id with
  | .error e => (.error e, s)
  | .ok w =>
    match w.props.withItems? items with
    | none => (.error (.noItems w.kind), s)
    | some props => (s.update id fun w => { w with props }).touched { w with props }

/-- Moves a widget to another area and onto the grid there. The area is changed even if the
position cannot be moved to the grid. -/
def setArea (s : Session) (id : Int) (area : Area) : Outcome Widget :=
  match s.widget id with
  | .error e => (.error e, s)
  | .ok w =>
    match s.snap w.pos with
    | .error e => (.error e, s.update id fun w => { w with area })
    | .ok pos => (s.update id fun w => { w with area, pos }).touched { w with area, pos }

/-- Switches a panel. -/
def setPanelEnabled (s : Session) (area : Area) (enabled : Bool) : Outcome Unit :=
  match s.project.setEnabled area enabled with
  | .error e => (.error (.name e), s)
  | .ok project => { s with project }.touch

end Formwork.Session
