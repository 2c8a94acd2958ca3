import Formwork.Session.Arrange
import Formwork.Session.Documents
import Formwork.Session.Edit

/-!
# Commands

Everything that an editing surface can ask of a session, as one type. A `Desk` is a session
together with the files it reads and writes; `Command.run` carries a command out and answers what
the surface is told. A command that fails still leaves a desk behind.
-/

set_option autoImplicit false

namespace Formwork

/-- What a session can be asked to do. -/
inductive Command where
  | place (kind : Kind) (center : Vec) (area : Area) (origin : Vec)
  | selectSingle (id : Int)
  | toggleSelection (id : Int)
  | addToSelection (id : Int)
  | clearSelection
  | selectAll
  | delete (id : Int)
  | deleteSelected
  | duplicateSelected
  | copy
  | paste
  | nudge (dx dy : Int)
  | bringToFront
  | sendToBack
  | align (axis : Axis) (how : Alignment)
  | matchExtent (axis : Axis)
  | distribute (axis : Axis)
  | setItems (id : Int) (items : List String)
  | setArea (id : Int) (area : Area)
  | setPanelEnabled (area : Area) (enabled : Bool)
  | newProject
  | load (path : Text.Raw)
  | save (path : Option Text.Raw)
  | importText (text : String)
  | generate
  | touch

/-- What a command answers. -/
inductive Reply where
  | nothing
  | flag (b : Bool)
  | count (n : Nat)
  | ids (ids : List Int)
  | widget (w : Option Widget)

/-- A session and the files it works with. -/
structure Desk where
  session : Session := {}
  files : FileTree := {}

namespace Desk

/-- Puts the outcome of a session's command on the desk. -/
def settle {α : Type} (d : Desk) (reply : α → Reply) (o : Outcome α) :
    Except Fault Reply × Desk :=
  (o.1.map reply, { d with session := o.2 })

/-- Puts a session on the desk; there is nothing to answer. -/
def quietly (d : Desk) (s : Session) : Except Fault Reply × Desk :=
  d.settle (fun _ : Unit => .nothing) (.ok (), s)

end Desk

/-- Carries a command out. -/
def Command.run (c : Command) (d : Desk) : Except Fault Reply × Desk :=
  let s := d.session
  match c with
  | place kind center area origin =>
    d.settle (fun w => .widget (some w)) (s.place kind center area origin)
  | selectSingle id => d.quietly (s.selectSingle id)
  | toggleSelection id => d.quietly (s.toggleSelection id)
  | addToSelection id => d.quietly (s.addToSelection id)
  | clearSelection => d.quietly s.clearSelection
  | selectAll => d.quietly s.selectAll
  | delete id => d.settle .flag (s.delete id)
  | deleteSelected => d.settle .count s.deleteSelected
  | duplicateSelected => d.settle .ids s.duplicateSelected
  | copy => d.settle .flag s.copy
  | paste => d.settle .widget s.paste
  | nudge dx dy => d.settle (fun _ => .nothing) (s.nudge dx dy)
  | bringToFront => d.quietly s.bringToFront
  | sendToBack => d.quietly s.sendToBack
  | align axis how => d.settle (fun _ => .nothing) (s.align axis how)
  | matchExtent axis => d.settle (fun _ => .nothing) (s.matchExtent axis)
  | distribute axis => d.settle (fun _ => .nothing) (s.distribute axis)
  | setItems id items => d.settle (fun w => .widget (some w)) (s.setItems id items)
  | setArea id area => d.settle (fun w => .widget (some w)) (s.setArea id area)
  | setPanelEnabled area enabled =>
    d.settle (fun _ => .nothing) (s.setPanelEnabled area enabled)
  | newProject => d.quietly s.newProject
  | load path => d.settle .flag (s.load d.files path)
  | save path =>
    let (o, files) := s.save d.files path
    { d with files }.settle .flag o
  | importText text => d.settle .flag (s.importText text)
  | generate => d.settle (fun _ => .nothing) s.generate
  | touch => d.settle (fun _ => .nothing) s.touch

end Formwork
