import Formwork.Binary64.Sort
import Formwork.Session.Basic

/-!
# Moving and arranging

Commands on the selected widgets. Those that arrange work along one axis and leave the other
alone; they need two selected ids, or three to distribute. A widget that is selected more than
once is changed more than once.
-/

set_option autoImplicit false

namespace Formwork

/-- A direction in which widgets are arranged. -/
inductive Axis where
  | horizontal
  | vertical
  deriving DecidableEq

namespace Axis

/-- The coordinate along the axis. -/
def get : Axis → Vec → Binary64
  | horizontal, v => v.x
  | vertical, v => v.y

/-- The point with another coordinate along the axis. -/
def set : Axis → Binary64 → Vec → Vec
  | horizontal, x, v => { v with x }
  | vertical, y, v => { v with y }

end Axis

/-- Where widgets are aligned. -/
inductive Alignment where
  | near
  | center
  | far
  deriving DecidableEq

namespace Widget

/-- The near edge along an axis. -/
def near (w : Widget) (axis : Axis) : Binary64 := axis.get w.pos

/-- The extent along an axis. -/
def along (w : Widget) (axis : Axis) : Binary64 := axis.get w.size

/-- The far edge along an axis. -/
def far (w : Widget) (axis : Axis) : Binary64 := w.near axis + w.along axis

/-- The middle along an axis. -/
def middle (w : Widget) (axis : Axis) : Binary64 := w.near axis + w.along axis / 2

/-- The widget moved along an axis, its near edge at `x`. -/
def moveTo (axis : Axis) (x : Binary64) (w : Widget) : Widget :=
  { w with pos := axis.set x w.pos }

/-- The widget with another extent along an axis. -/
def resize (axis : Axis) (x : Binary64) (w : Widget) : Widget :=
  { w with size := axis.set x w.size }

end Widget

/-- The sum, from the left and beginning with zero. -/
def total (xs : List Binary64) : Binary64 := xs.foldl (· + ·) 0

namespace Session

/-! ## Steps -/

/-- The length of a step: that of the grid, but at least one. -/
def stepLength (s : Session) : Binary64 := s.gridSize.greater 1

/-- A coordinate some steps further, but not below zero. -/
def stepped (step count x : Binary64) : Binary64 := (x + count * step).greater 0

/-- Moves the selected widgets by whole steps. A count beyond every finite number fails at the
first widget; the horizontal one comes first, and is done when the vertical one fails. -/
def nudge (s : Session) (dx dy : Int) : Outcome Unit :=
  match s.selectedWidgets with
  | [] => s.touch
  | first :: rest =>
    match Binary64.ofInt? dx, Binary64.ofInt? dy with
    | none, _ => (.error .oversizedInteger, s)
    | some nx, none =>
      let move := fun w : Widget => w.moveTo .horizontal (stepped s.stepLength nx w.pos.x)
      (.error .oversizedInteger, s.update first.id move)
    | some nx, some ny =>
      let move := fun w : Widget =>
        { w with pos := ⟨stepped s.stepLength nx w.pos.x, stepped s.stepLength ny w.pos.y⟩ }
      (s.updateEach ((first :: rest).map Widget.id) move).touch

/-! ## Painting order -/

/-- The largest `z`, or zero in an empty design. -/
def top (p : Project) : Int :=
  match p.widgets with
  | [] => 0
  | w :: ws => ws.foldl (fun z v => max z v.z) w.z

/-- The smallest `z`, or zero in an empty design. -/
def bottom (p : Project) : Int :=
  match p.widgets with
  | [] => 0
  | w :: ws => ws.foldl (fun z v => min z v.z) w.z

/-- Gives the widgets the values of `z` that begin with `z` and go on by `step`. -/
def stack (s : Session) (z step : Int) : List Int → Session
  | [] => s
  | id :: ids => (s.update id fun w => { w with z }).stack (z + step) step ids

/-- Puts the selected widgets above all others, the one selected last on top. -/
def bringToFront (s : Session) : Session :=
  s.stack (top s.project + 1) 1 (s.selectedWidgets.map Widget.id)

/-- Puts the selected widgets below all others, the one selected last at the bottom. -/
def sendToBack (s : Session) : Session :=
  s.stack (bottom s.project - 1) (-1) (s.selectedWidgets.map Widget.id)

/-! ## Alignment -/

/-- The widgets to arrange: none when fewer ids are selected than are needed. -/
def arranged (s : Session) (least : Nat) : List Widget :=
  if least ≤ s.selected.length then s.selectedWidgets else []

/-- Where the near edge of a widget comes when the widgets are aligned. -/
def alignedEdge (axis : Axis) (how : Alignment) (first : Widget) (rest : List Widget) :
    Widget → Binary64 :=
  match how with
  | .near =>
    let edge := rest.foldl (fun e w => e.lesser (w.near axis)) (first.near axis)
    fun _ => edge
  | .far =>
    let edge := rest.foldl (fun e w => e.greater (w.far axis)) (first.far axis)
    fun w => edge - w.along axis
  | .center =>
    let ws := first :: rest
    let middle := total (ws.map fun w => w.middle axis) / .ofNat ws.length
    fun w => middle - w.along axis / 2

/-- Aligns the selected widgets along an axis. -/
def align (s : Session) (axis : Axis) (how : Alignment) : Outcome Unit :=
  match s.arranged 2 with
  | [] => (.ok (), s)
  | first :: rest =>
    let edge := alignedEdge axis how first rest
    (s.updateEach ((first :: rest).map Widget.id) fun w => w.moveTo axis (edge w)).touch

/-- Gives the selected widgets the extent of the first one. -/
def matchExtent (s : Session) (axis : Axis) : Outcome Unit :=
  match s.arranged 2 with
  | [] => (.ok (), s)
  | first :: rest =>
    (s.updateEach (rest.map Widget.id) fun w => w.resize axis (first.along axis)).touch

/-- Moves widgets one after the other, each a gap behind the one before. -/
def layOut (s : Session) (axis : Axis) (gap x : Binary64) : List Widget → Session
  | [] => s
  | w :: ws => (s.update w.id (Widget.moveTo axis x)).layOut axis gap (x + (w.along axis + gap)) ws

/-- Makes the gaps between the selected widgets equal; the outermost edges stay. -/
def distribute (s : Session) (axis : Axis) : Outcome Unit :=
  let ws := Binary64.sortBy (fun w => w.near axis) (s.arranged 3)
  match ws.head?, ws.getLast? with
  | some first, some last =>
    if ws.length < 3 then (.ok (), s)
    else
      let extent := total (ws.map fun w => w.along axis)
      let gap := (last.far axis - first.near axis - extent) / .ofNat (ws.length - 1)
      (s.layOut axis gap (first.near axis) ws).touch
  | _, _ => (.ok (), s)

end Session

end Formwork
