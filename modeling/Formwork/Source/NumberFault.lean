import Formwork.Source.Module

/-!
# Numbers that cannot be written

A module brings into range what it can. Ids, colour channels and counts of columns are written as
they are, and two things can be wrong with them: an integer may have more digits than are ever
shown, and a channel may be so large that its fraction lies beyond every finite number.

`Project.checkedGenerate` generates a module unless there is such a number. The one that counts is
that which would be written first: all fields of the state record come before any drawing.
-/

set_option autoImplicit false

namespace Formwork

namespace Source

/-- Why a number is not written. -/
inductive NumberFault where
  | overlong
  | oversized
  deriving DecidableEq

def NumberFault.message : NumberFault → String
  | overlong => overlongText
  | oversized => "integer division result too large for a float"

/-- An integer with too many digits is not written. -/
def checkInteger (n : Int) : Except NumberFault Unit :=
  if isOverlong n then .error .overlong else .ok ()

/-- A channel is not written where its fraction is beyond every finite number. -/
def checkChannel (c : Int) : Except NumberFault Unit :=
  if (channelFraction c).isFinite then .ok () else .error .oversized

/-- An id that is written, or is not. -/
def checkId (written : Bool) (id : Int) : Except NumberFault Unit :=
  if written then checkInteger id else .ok ()

/-- The numbers of a control in its field. -/
def checkInitial : Control → Except NumberFault Unit
  | .colorPicker _ c => c.channels.forM checkInteger
  | _ => .ok ()

/-- The numbers of a control in its drawing. -/
def checkDrawing : Control → Except NumberFault Unit
  | .columns _ n => checkInteger (max n 1)
  | .placeholder _ c => c.channels.forM checkChannel
  | _ => .ok ()

/-- Does the drawing of a control name the id of its widget? -/
def namesId : Control → Bool
  | .label _ => false
  | .heading _ => false
  | .small _ => false
  | .monospace _ => false
  | .separator => false
  | .spinner => false
  | .image .. => false
  | .placeholder .. => false
  | _ => true

/-- The field of a widget, where its kind has one. -/
def checkField (w : Widget) : Except NumberFault Unit := do
  checkId (stateOf w.props.control).isSome w.id
  checkInitial w.props.control

/-- The code of a widget. The comment that names it has its id as well. -/
def checkBlock (comments : Bool) (w : Widget) : Except NumberFault Unit := do
  checkId (comments || namesId w.props.control) w.id
  checkDrawing w.props.control

end Source

namespace Project

/-- The widgets in the order in which they are drawn. -/
def drawn (p : Project) : List Widget := Area.drawOrder.flatMap p.inArea

/-- Can all numbers of a design be written? -/
def checkNumbers (p : Project) (comments : Bool) : Except Source.NumberFault Unit := do
  p.drawn.forM Source.checkField
  p.drawn.forM (Source.checkBlock comments)

/-- The generated code of a design, unless a number of it cannot be written. -/
def checkedGenerate (p : Project) (f : Source.Format) (comments : Bool) :
    Except Source.NumberFault String := do
  p.checkNumbers comments
  return p.generate f comments

end Project

end Formwork
